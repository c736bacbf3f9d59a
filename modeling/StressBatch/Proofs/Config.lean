import StressBatch.Config.Loading

/-!
# Which configurations can be loaded

A configuration is what the variables make of the one that is written down, or of the defaults, and
it is handed on exactly if there is nothing wrong with it.
-/

namespace StressBatch.Config

open Dotenv (Variables)

variable {base config : Config} {vars : Variables}

/-- What can be loaded from a base configuration: what the variables make of it, if that has no
fault. -/
structure Layered (base : Config) (vars : Variables) (config : Config) : Prop where
  eq_overrides : config = base.applyOverrides vars
  faultless : config.fault? = none

theorem validate_eq_ok_iff : config.validate = .ok () ↔ config.fault? = none := by
  unfold validate
  cases config.fault? with
  | none => simp
  | some fault => simp

theorem layered_eq_ok_iff : layered base vars = .ok config ↔ Layered base vars config := by
  unfold layered
  constructor
  · intro h
    cases hvalid : (base.applyOverrides vars).validate with
    | error failure => simp [hvalid] at h
    | ok _ =>
      simp only [hvalid, Except.ok.injEq] at h
      subst h
      exact ⟨rfl, validate_eq_ok_iff.mp hvalid⟩
  · rintro ⟨rfl, hfaultless⟩
    simp only [validate_eq_ok_iff.mpr hfaultless]

/-- The base configuration that is written in a text. -/
def baseOfToml? (text : String) : Option Config :=
  (Toml.parse? text).bind (Config.ofDocument? .toml)

end StressBatch.Config
