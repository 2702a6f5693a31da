/-
Who may work on the machine: technicians, and only on software that allows it.

Main statement: `authorize_eq_ok_iff` — the only accepted case is a technician
under the full policy.
-/
import CashMachine.Error

namespace CashMachine

/-- Who drives a session. -/
inductive Role where
  | customer
  | technician
deriving DecidableEq, Repr

/-- What the running software allows. -/
inductive Policy where
  /-- Reports only. -/
  | readOnly
  /-- Reports, cash, ink, paper and software updates. -/
  | full
deriving DecidableEq, Repr

namespace Policy

/-- The first version with full maintenance. -/
def fullSince : Version := ⟨2, 0⟩

def ofVersion (v : Version) : Policy :=
  if fullSince ≤ v then full else readOnly

/-- Checks that a role may change the machine while `running` is installed. -/
def authorize (p : Policy) (role : Role) (running : Version) : Except Error Unit :=
  match role, p with
  | .customer, _ => .error (.unauthorized .notTechnician)
  | .technician, full => .ok ()
  | .technician, readOnly => .error (.unauthorized (.readOnly running fullSince))

theorem authorize_eq_ok_iff {p : Policy} {role : Role} {running : Version} :
    p.authorize role running = .ok () ↔ role = .technician ∧ p = .full := by
  cases role <;> cases p <;> simp [authorize]

theorem ofVersion_eq_full_iff_le {v : Version} : ofVersion v = .full ↔ fullSince ≤ v := by
  unfold ofVersion
  by_cases h : fullSince ≤ v <;> simp [h]

end Policy

end CashMachine
