import TableCast.Emit.Doctrine.Entity

/-!
# Doctrine repositories

The class of a repository for one entity.
-/

namespace TableCast
namespace Emit
namespace Doctrine

open Model Text

/-- The lines of the file of a repository. -/
def repositoryLines (context : RenderContext) (e : Entity) (name : String) : List String :=
  fileHead (context.moduleOf .repository) ++
  ["use " ++ namespaceOf (context.moduleOf .entity) ++ "\\" ++ e.typeName ++ ";",
    "use Doctrine\\Bundle\\DoctrineBundle\\Repository\\ServiceEntityRepository;",
    "use Doctrine\\Persistence\\ManagerRegistry;",
    "",
    "/**",
    " * Repository for " ++ e.typeName ++ " (table " ++ e.name ++ ").",
    " *",
    " * @extends ServiceEntityRepository<" ++ e.typeName ++ ">",
    " *",
    " * @method " ++ e.typeName ++ "|null find($id, $lockMode = null, $lockVersion = null)",
    " * @method " ++ e.typeName ++ "|null findOneBy(array $criteria, array $orderBy = null)",
    " * @method " ++ e.typeName ++ "[]    findAll()",
    " * @method " ++ e.typeName ++
      "[]    findBy(array $criteria, array $orderBy = null, $limit = null, $offset = null)",
    " */",
    "class " ++ name ++ " extends ServiceEntityRepository",
    "\x7b",
    "    public function __construct(ManagerRegistry $registry)",
    "    \x7b",
    "        parent::__construct($registry, " ++ e.typeName ++ "::class);",
    "    \x7d",
    "\x7d"]

/-- The text of the file of a repository. -/
def repositoryText (context : RenderContext) (e : Entity) (name : String) : String :=
  unlines (repositoryLines context e name)

end Doctrine
end Emit
end TableCast
