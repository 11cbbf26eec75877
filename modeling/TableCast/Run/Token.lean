import TableCast.Fault
import TableCast.Run.Options

/-!
# Cancellation

A run is told to stop by a token that everybody who takes part in it can look at.  A token
fires once and stays fired; the first reason is kept.

- `Token`, `Token.cancel`: the token, and how it fires.
- `Token.look`: the token as it is seen, which fires when its time is over.
- `Token.check`: refuses to go on.
-/

namespace TableCast
namespace Run

/-- A sign to stop. -/
structure Token where
  fired : Bool := false
  reason : Option String := none
  /-- Whether its time is over. -/
  overdue : Bool := false
deriving Repr, DecidableEq, Inhabited

namespace Token

/-- The reason that is given when there is no other. -/
def callerReason : String := "cancelled by caller"

/-- The reason of a token whose time is over. -/
def timeoutReason : String := "timeout"

/-- The reason of a token that fires on an interruption. -/
def interruptedReason : String := "interrupted"

/-- The token fired for a reason; one that has fired keeps its reason. -/
def cancel (t : Token) (reason : Option String) : Token :=
  if t.fired then t else { t with fired := true, reason := reason }

/-- The token with a duration after which it fires, counted from now.  Of several durations
the shortest counts. -/
def setTimeout (t : Token) (timeout : Seconds) : Token :=
  if timeout.isOver then { t with overdue := true } else t

/-- The token as it is seen: it fires when its time is over. -/
def look (t : Token) : Token :=
  if t.overdue then t.cancel (some timeoutReason) else t

/-- The fault of going on after the token has fired. -/
def fault (t : Token) : Fault :=
  let base : Fault := { kind := .cancelled, message := FaultKind.cancelled.ownMessage }
  base.note? "reason" t.reason

/-- Refuses to go on when the token has fired. -/
def check (t : Token) : Except Fault Unit :=
  if t.look.fired then .error t.look.fault else .ok ()

/-- The reason in the words of a log entry. -/
def shownReason (t : Token) : String := t.reason.getD "None"

@[simp] theorem fired_cancel (t : Token) (reason : Option String) :
    (t.cancel reason).fired = true := by
  unfold cancel; split <;> simp_all

theorem fired_look_of_fired {t : Token} (h : t.fired = true) : t.look.fired = true := by
  unfold look; split <;> simp [h]

end Token
end Run
end TableCast
