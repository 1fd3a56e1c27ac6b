import BulkImport.Config.Environment
import BulkImport.Proofs.Text.Trimming

/-!
# What is read of an environment

Two environments agree on a variable when its value is the same in both of them apart from the
blanks around it, a blank value being none (`Agree`).  What is made of an environment depends on
some of its variables when the same is made of any other that agrees with it on these
(`DependsOn`).  Main statements: what is made of the values that are read of some variables depends on
them (`DependsOn.of_read?`), and what is done step by step, up to the first error, depends on what the
steps depend on (`DependsOn.bind`).
-/

namespace BulkImport.Environment

variable {env env' : Environment} {name : String} {names : List String} {α β ε ε' : Type}

/-! ### Variables that are set -/

/-- The value of the variable is the same in both environments, apart from blanks around it; a blank
value is none. -/
def Agree (env env' : Environment) (name : String) : Prop :=
  ((env name).map Text.trim).filter (· ≠ "") = ((env' name).map Text.trim).filter (· ≠ "")

instance : Decidable (Agree env env' name) := inferInstanceAs (Decidable (_ = _))

/-- What is made of an environment is the same for any two that agree on these variables. -/
def DependsOn (names : List String) (f : Environment → α) : Prop :=
  ∀ ⦃env env'⦄, (∀ name ∈ names, Agree env env' name) → f env = f env'

namespace DependsOn

theorem const (a : α) : DependsOn names fun _ => a := fun _ _ _ => rfl

theorem mono {names' : List String} {f : Environment → α} (h : DependsOn names f)
    (hsub : names ⊆ names') : DependsOn names' f :=
  fun _ _ hagree => h fun name hname => hagree name (hsub hname)

theorem map {f : Environment → α} (h : DependsOn names f) (g : α → β) :
    DependsOn names fun env => g (f env) :=
  fun _ _ hagree => congrArg g (h hagree)

/-- A value, and then what is made of the environment with this value. -/
theorem through {f : Environment → α} {g : α → Environment → β} (hf : DependsOn names f)
    (hg : ∀ a, DependsOn names (g a)) : DependsOn names fun env => g (f env) env :=
  fun env _ hagree => (hg (f env) hagree).trans (congrArg (g · _) (hf hagree))

/-- One step, and then the next one with what the first one gave. -/
theorem bind {f : Environment → Except ε α} {g : α → Environment → Except ε β}
    (hf : DependsOn names f) (hg : ∀ a, DependsOn names (g a)) :
    DependsOn names fun env => f env >>= fun a => g a env := by
  refine through (g := fun r env => r >>= fun a => g a env) hf fun r => ?_
  cases r with
  | ok a => exact hg a
  | error e => exact const (Except.error e)

/-- What is made of the values that are read. -/
theorem of_read? {f : Environment → α}
    (h : ∀ env env', (∀ name ∈ names, env.read? name = env'.read? name) → f env = f env') :
    DependsOn names f :=
  fun env env' hagree => h env env' fun name hname => read?_congr (hagree name hname)

theorem readOr (h : name ∈ names) (default : String) :
    DependsOn names fun env => env.readOr name default :=
  of_read? fun _ _ hsame => by simp only [Environment.readOr, hsame name h]

theorem parseOr (h : name ∈ names) (parse : String → Option α) (default : α) :
    DependsOn names fun env => env.parseOr name parse default :=
  of_read? fun _ _ hsame => by simp only [Environment.parseOr, hsame name h]

end DependsOn

end BulkImport.Environment
