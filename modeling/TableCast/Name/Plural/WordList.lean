/-!
# English words with a number of their own

The words, endings and pairs of words that the rules of English number look up.
-/

namespace TableCast
namespace Name
namespace Plural

/-- Words that are their own plural. -/
def uninflected : List String :=
  ["tuna", "salmon", "mackerel", "trout", "bream", "sea-bass", "sea bass", "carp", "cod",
    "flounder", "whiting", "moose", "graffiti", "djinn", "samuri", "offspring", "pence", "quid",
    "hertz",
    "breeches", "britches", "pajamas", "pyjamas", "clippers", "gallows", "hijinks",
    "headquarters", "pliers", "scissors", "testes", "herpes", "pincers", "shears", "proceedings",
    "trousers", "cantus", "coitus", "nexus", "contretemps", "corps", "debris", "siemens", "mumps",
    "diabetes", "jackanapes", "series", "species", "subspecies", "rabies", "chassis", "innings",
    "news", "mews", "haggis"]

/-- Words in s that are their own plural. -/
def uninflectedS : List String :=
  ["breeches", "britches", "pajamas", "pyjamas", "clippers", "gallows", "hijinks",
    "headquarters", "pliers", "scissors", "testes", "herpes", "pincers", "shears", "proceedings",
    "trousers", "cantus", "coitus", "nexus", "contretemps", "corps", "debris", "siemens", "mumps",
    "diabetes", "jackanapes", "series", "species", "subspecies", "rabies", "chassis", "innings",
    "news", "mews", "haggis"]

/-- Names that are their own plural. -/
def uninflectedNames : List String :=
  ["Portuguese", "Amoyese", "Borghese", "Congoese", "Faroese", "Foochowese", "Genevese",
    "Genoese", "Gilbertese", "Hottentotese", "Kiplingese", "Kongoese", "Lucchese", "Maltese",
    "Nankingese", "Niasese", "Pekingese", "Piedmontese", "Pistoiese", "Sarawakese", "Shavese",
    "Vermontese", "Wenchowese", "Yengeese"]

/-- Endings of words that are their own plural. -/
def uninflectedEndings : List String :=
  ["butter", "cash", "cutlery", "equipment", "furniture", "information", "jewelry", "machinery",
    "fish", "deer", "sheep", "nese", "rese", "lese", "mese", "pox", "craft", "ois", "measles"]

/-- Latin words in -us that keep their form in the plural. -/
def latinUs : List String :=
  ["status", "apparatus", "prospectus", "sinus", "hiatus", "impetus", "plexus"]

/-- Words in -man that take an s. -/
def manMans : List String :=
  ["ataman", "caiman", "cayman", "ceriman", "desman", "dolman", "farman", "harman", "hetman",
    "human", "leman", "ottoman", "shaman", "talisman"]

/-- Names in -man that take an s. -/
def manMansNames : List String :=
  ["Alabaman", "Bahaman", "Burman", "German", "Hiroshiman", "Liman", "Nakayaman", "Norman",
    "Oklahoman", "Panaman", "Roman", "Selman", "Sonaman", "Tacoman", "Yakiman", "Yokohaman",
    "Yuman"]

/-- Words in -louse with a plural in -lice. -/
def louseLice : List String :=
  ["booklouse", "grapelouse", "louse", "woodlouse"]

/-- Words in -ch that take an s. -/
def chChs : List String :=
  ["czech", "eunuch", "stomach"]

/-- Words in -ex with a plural in -ices. -/
def exIces : List String :=
  ["codex", "murex", "silex"]

/-- Words in -ix with a plural in -ices. -/
def ixIces : List String :=
  ["radix", "helix"]

/-- Words in -um with a plural in -a. -/
def umA : List String :=
  ["bacterium", "agendum", "desideratum", "erratum", "stratum", "datum", "ovum", "extremum",
    "candelabrum"]

/-- Words in -us with a plural in -i. -/
def usI : List String :=
  ["alumnus", "alveolus", "bacillus", "bronchus", "locus", "nucleus", "stimulus", "meniscus",
    "sarcophagus"]

/-- Words in -on with a plural in -a. -/
def onA : List String :=
  ["criterion", "perihelion", "aphelion", "phenomenon", "prolegomenon", "noumenon", "organon",
    "asyndeton", "hyperbaton"]

/-- Words in -a with a plural in -ae. -/
def aAe : List String :=
  ["alumna", "alga", "vertebra", "persona", "vita"]

/-- Singular words in s that take -es. -/
def singularS : List String :=
  ["acropolis", "aegis", "alias", "asbestos", "bathos", "bias", "bronchitis", "bursitis",
    "caddis", "cannabis", "canvas", "chaos", "christmas", "cosmos", "dais", "digitalis",
    "epidermis", "ethos", "eyas", "gas", "glottis", "hubris", "ibis", "lens", "mantis", "marquis",
    "metropolis", "pathos", "pelvis", "polis", "rhinoceros", "sassafras", "trellis", "ephemeris",
    "iris", "clitoris", "chrysalis", "epididymis"]

/-- Endings of singular words in s that take -es. -/
def singularSEndings : List String :=
  ["ss", "us", "itis"]

/-- Words in z that take -es. -/
def zZes : List String :=
  ["quartz", "topaz"]

/-- Words in -ze that take an s. -/
def zeZes : List String :=
  ["snooze"]

/-- Words in -o that take an s. -/
def oOsWords : List String :=
  ["ado", "oto"]

/-- Endings in -o that take an s. -/
def oOs : List String :=
  ["aficionado", "aggro", "albino", "allegro", "ammo", "archipelago", "armadillo", "auto",
    "avocado", "bimbo", "bingo", "bolero", "bongo", "burro", "canto", "cappuccino", "casino",
    "cello", "cilantro", "cochito", "coco", "commando", "concertino", "contango", "credo",
    "crescendo", "cyano", "demo", "ditto", "dynamo", "embryo", "espresso", "euro", "falsetto",
    "fiasco", "flamenco", "furioso", "generalissimo", "ghetto", "gigolo", "gizmo", "gringo",
    "guano", "gumbo", "gyro", "hairdo", "hippo", "impetigo", "inferno", "info", "intermezzo",
    "intertrigo", "jumbo", "junto", "kilo", "libero", "libido", "libretto", "lido", "limbo",
    "limo", "lineno", "lingo", "lino", "livedo", "loco", "logo", "lumbago", "macho", "macro",
    "mafioso", "magneto", "magnifico", "manifesto", "medico", "memo", "metro", "micro", "mono",
    "myo", "neutrino", "octavo", "oregano", "panto", "pedalo", "photo", "pimento", "pinto",
    "pleco", "pogo", "polo", "poncho", "pro", "psycho", "pueblo", "quarto", "repo", "rhino",
    "risotto", "rococo", "rondo", "saddo", "sago", "salvo", "scherzando", "scherzo", "silo",
    "sirocco", "sombrero", "staccato", "sterno", "stucco", "stylo", "sumo", "techno", "terrazzo",
    "testudo", "timpano", "tiro", "tobacco", "torero", "torso", "tremolo", "typo", "tyro", "ufo",
    "vaquero", "vermicello", "verso", "vibrato", "violoncello", "weirdo", "yo-yo", "zero", "solo",
    "soprano", "basso", "alto", "contralto", "tempo", "piano", "virtuoso"]

/-- Plural names in -ois. -/
def oisNames : List String :=
  ["Bolshois", "Hanois"]

/-- Plural names in -uses of names in -use. -/
def usesUseNames : List String :=
  ["Betelgeuses", "Duses", "Meuses", "Syracuses", "Toulouses"]

/-- Plurals in -uses of words in -use. -/
def usesUse : List String :=
  ["abuses", "applauses", "blouses", "carouses", "causes", "chartreuses", "clauses", "contuses",
    "douses", "excuses", "fuses", "grouses", "hypotenuses", "masseuses", "menopauses", "misuses",
    "muses", "overuses", "pauses", "peruses", "profuses", "recluses", "reuses", "ruses", "souses",
    "spouses", "suffuses", "transfuses", "uses"]

/-- Plural names in -ies of names in -ie. -/
def iesIeNames : List String :=
  ["Addies", "Aggies", "Allies", "Amies", "Angies", "Annies", "Annmaries", "Archies", "Arties",
    "Aussies", "Barbies", "Barries", "Basies", "Bennies", "Bernies", "Berties", "Bessies",
    "Betties", "Billies", "Blondies", "Bobbies", "Bonnies", "Bowies", "Brandies", "Bries",
    "Brownies", "Callies", "Carnegies", "Carries", "Cassies", "Charlies", "Cheries", "Christies",
    "Connies", "Curies", "Dannies", "Debbies", "Dixies", "Dollies", "Donnies", "Drambuies",
    "Eddies", "Effies", "Ellies", "Elsies", "Eries", "Ernies", "Essies", "Eugenies", "Fannies",
    "Flossies", "Frankies", "Freddies", "Gillespies", "Goldies", "Gracies", "Guthries", "Hallies",
    "Hatties", "Hetties", "Hollies", "Jackies", "Jamies", "Janies", "Jannies", "Jeanies",
    "Jeannies", "Jennies", "Jessies", "Jimmies", "Jodies", "Johnies", "Johnnies", "Josies",
    "Julies", "Kalgoorlies", "Kathies", "Katies", "Kellies", "Kewpies", "Kristies", "Laramies",
    "Lassies", "Lauries", "Leslies", "Lessies", "Lillies", "Lizzies", "Lonnies", "Lories",
    "Lorries", "Lotties", "Louies", "Mackenzies", "Maggies", "Maisies", "Mamies", "Marcies",
    "Margies", "Maries", "Marjories", "Matties", "McKenzies", "Melanies", "Mickies", "Millies",
    "Minnies", "Mollies", "Mounties", "Nannies", "Natalies", "Nellies", "Netties", "Ollies",
    "Ozzies", "Pearlies", "Pottawatomies", "Reggies", "Richies", "Rickies", "Robbies", "Ronnies",
    "Rosalies", "Rosemaries", "Rosies", "Roxies", "Rushdies", "Ruthies", "Sadies", "Sallies",
    "Sammies", "Scotties", "Selassies", "Sherries", "Sophies", "Stacies", "Stefanies",
    "Stephanies", "Stevies", "Susies", "Sylvies", "Tammies", "Terries", "Tessies", "Tommies",
    "Tracies", "Trekkies", "Valaries", "Valeries", "Valkyries", "Vickies", "Virgies", "Willies",
    "Winnies", "Wylies", "Yorkies"]

/-- Plurals in -ies of words in -ie. -/
def iesIe : List String :=
  ["aeries", "baggies", "belies", "biggies", "birdies", "bogies", "bonnies", "boogies",
    "bookies", "bourgeoisies", "brownies", "budgies", "caddies", "calories", "camaraderies",
    "cockamamies", "collies", "cookies", "coolies", "cooties", "coteries", "crappies", "curies",
    "cutesies", "dogies", "eyries", "floozies", "footsies", "freebies", "genies", "goalies",
    "groupies", "hies", "jalousies", "junkies", "kiddies", "laddies", "lassies", "lies",
    "lingeries", "magpies", "menageries", "mommies", "movies", "neckties", "newbies", "nighties",
    "oldies", "organdies", "overlies", "pies", "pinkies", "pixies", "potpies", "prairies",
    "quickies", "reveries", "rookies", "rotisseries", "softies", "sorties", "species", "stymies",
    "sweeties", "ties", "underlies", "unties", "veggies", "vies", "yuppies", "zombies"]

/-- Plural names in -oes of names in -oe. -/
def oesOeNames : List String :=
  ["Chloes", "Crusoes", "Defoes", "Faeroes", "Ivanhoes", "Joes", "McEnroes", "Moes", "Monroes",
    "Noes", "Poes", "Roscoes", "Tahoes", "Tippecanoes", "Zoes"]

/-- Plurals in -oes of words in -oe. -/
def oesOe : List String :=
  ["aloes", "backhoes", "canoes", "does", "floes", "foes", "hoes", "mistletoes", "oboes",
    "pekoes", "roes", "sloes", "throes", "tiptoes", "toes", "woes"]

/-- Plurals in -zzes of words in -zz. -/
def zzesZz : List String :=
  ["buzzes", "fizzes", "frizzes", "razzes"]

/-- Plural names in -ches of names in -che. -/
def chesCheNames : List String :=
  ["Andromaches", "Apaches", "Blanches", "Comanches", "Nietzsches", "Porsches", "Roches"]

/-- Plurals in -ches of words in -che. -/
def chesChe : List String :=
  ["aches", "avalanches", "backaches", "bellyaches", "caches", "cloches", "creches", "douches",
    "earaches", "fiches", "headaches", "heartaches", "microfiches", "niches", "pastiches",
    "psyches", "quiches", "stomachaches", "toothaches", "tranches"]

/-- Plurals in -xes of words in -xe. -/
def xesXe : List String :=
  ["annexes", "axes", "deluxes", "pickaxes"]

/-- Plural names in -sses of names in -sse. -/
def ssesSseNames : List String :=
  ["Hesses", "Jesses", "Larousses", "Matisses"]

/-- Plurals in -sses of words in -sse. -/
def ssesSse : List String :=
  ["bouillabaisses", "crevasses", "demitasses", "impasses", "mousses", "posses"]

/-- Plural names in -ves of names in -ve. -/
def vesVeNames : List String :=
  ["Clives", "Palmolives"]

/-- Plurals in -ves of words in -ve. -/
def vesVe : List String :=
  ["interweaves", "weaves", "olives", "bivalves", "dissolves", "resolves", "salves", "twelves",
    "valves"]

/-- Plurals in -es of words in -is. -/
def esIs : List String :=
  ["amanuenses", "amniocenteses", "analyses", "antitheses", "apotheoses", "arterioscleroses",
    "atheroscleroses", "axes", "catalyses", "catharses", "chasses", "cirrhoses", "cocces",
    "crises", "diagnoses", "dialyses", "diereses", "electrolyses", "emphases", "exegeses",
    "geneses", "halitoses", "hydrolyses", "hypnoses", "hypotheses", "hystereses", "metamorphoses",
    "metastases", "misdiagnoses", "mitoses", "mononucleoses", "narcoses", "necroses", "nemeses",
    "neuroses", "oases", "osmoses", "osteoporoses", "paralyses", "parentheses", "parthenogeneses",
    "periphrases", "photosyntheses", "probosces", "prognoses", "prophylaxes", "prostheses",
    "preces", "psoriases", "psychoanalyses", "psychokineses", "psychoses", "scleroses",
    "scolioses", "sepses", "silicoses", "symbioses", "synopses", "syntheses", "taxes",
    "telekineses", "theses", "thromboses", "tuberculoses", "urinalyses"]

/-- Prepositions and the particles of names. -/
def prepositions : List String :=
  ["about", "above", "across", "after", "among", "around", "at", "athwart", "before", "behind",
    "below", "beneath", "beside", "besides", "between", "betwixt", "beyond", "but", "by",
    "during", "except", "for", "from", "in", "into", "near", "of", "off", "on", "onto", "out",
    "over", "since", "till", "to", "under", "until", "unto", "upon", "with", "de", "du", "da"]

/-- Verb forms that keep their form in the plural. -/
def unchangingVerbs : List String :=
  ["did", "had", "ate", "made", "put", "spent", "fought", "sank", "gave", "sought", "shall",
    "could", "ought", "should"]

/-- Verb forms in -oes of verbs in -oe. -/
def oesOeVerbs : List String :=
  ["canoes", "floes", "oboes", "roes", "throes", "woes"]

/-- Irregular plurals; of two forms the first is the modern one. -/
def irregular : List (String × String) :=
  [("child", "children"), ("chili", "chilis|chilies"), ("brother", "brothers|brethren"),
    ("infinity", "infinities|infinity"), ("lore", "lores|lore"),
    ("loaf", "loaves"), ("hoof", "hoofs|hooves"), ("beef", "beefs|beeves"),
    ("thief", "thiefs|thieves"), ("money", "monies"), ("mongoose", "mongooses"), ("ox", "oxen"),
    ("cow", "cows|kine"), ("graffito", "graffiti"), ("octopus", "octopuses|octopodes"),
    ("genie", "genies|genii"), ("ganglion", "ganglions|ganglia"), ("trilby", "trilbys"),
    ("turf", "turfs|turves"), ("numen", "numina"), ("atman", "atmas"),
    ("occiput", "occiputs|occipita"), ("sabretooth", "sabretooths"),
    ("sabertooth", "sabertooths"), ("lowlife", "lowlifes"), ("flatfoot", "flatfoots"),
    ("tenderfoot", "tenderfoots"), ("romany", "romanies"), ("jerry", "jerries"),
    ("mary", "maries"), ("talouse", "talouses"), ("rom", "roma"), ("carmen", "carmina"),
    ("corpus", "corpuses|corpora"), ("opus", "opuses|opera"), ("genus", "genera"),
    ("mythos", "mythoi"), ("penis", "penises|penes"), ("testis", "testes"),
    ("atlas", "atlases|atlantes"), ("yes", "yeses")]

/-- Irregular plurals of compounds. -/
def irregularCompounds : List (String × String) :=
  [("prima donna", "prima donnas|prime donne")]

/-- Irregular plurals of names. -/
def irregularNames : List (String × String) :=
  [("Romany", "Romanies"), ("Jerry", "Jerrys"), ("Mary", "Marys"), ("Rom", "Roma")]

/-- Plurals of pronouns as subject. -/
def pronouns : List (String × String) :=
  [("i", "we"), ("myself", "ourselves"), ("you", "you"), ("yourself", "yourselves"),
    ("she", "they"), ("herself", "themselves"), ("he", "they"), ("himself", "themselves"),
    ("it", "they"), ("itself", "themselves"), ("they", "they"), ("themself", "themselves"),
    ("mine", "ours"), ("yours", "yours"), ("hers", "theirs"), ("his", "theirs"),
    ("its", "theirs"), ("theirs", "theirs")]

/-- Plurals of pronouns as object. -/
def objectPronouns : List (String × String) :=
  [("me", "us"), ("myself", "ourselves"), ("you", "you"), ("yourself", "yourselves"),
    ("her", "them"), ("herself", "themselves"), ("him", "them"), ("himself", "themselves"),
    ("it", "them"), ("itself", "themselves"), ("them", "them"), ("themself", "themselves")]

/-- Singulars of plural pronouns, as subject first. -/
def singularPronouns : List (String × String) :=
  [("we", "I"), ("ourselves", "myself"), ("you", "you"), ("yourselves", "yourself"),
    ("they", "it"), ("themselves", "itself"), ("ours", "mine"), ("yours", "yours"),
    ("theirs", "its")]

/-- Singulars of plural pronouns as object. -/
def singularObjectPronouns : List (String × String) :=
  [("us", "me"), ("ourselves", "myself"), ("you", "you"), ("yourselves", "yourself"),
    ("them", "it"), ("themselves", "itself")]

/-- Plurals of irregular verbs in the present tense. -/
def presentVerbs : List (String × String) :=
  [("am", "are"), ("are", "are"), ("is", "are"), ("was", "were"), ("were", "were"),
    ("have", "have"), ("has", "have"), ("do", "do"), ("does", "do")]

/-- Plurals of articles and pointing words. -/
def determiners : List (String × String) :=
  [("a", "some"), ("an", "some"), ("this", "these"), ("that", "those")]

/-- Plurals of possessive words. -/
def possessives : List (String × String) :=
  [("my", "our"), ("your", "your"), ("its", "their"), ("her", "their"), ("his", "their"),
    ("their", "their")]

end Plural
end Name
end TableCast
