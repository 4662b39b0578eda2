-- SUMMARY: A formula that formats an instant and parses the text has the instant again, in every zone of whole minutes.
import Formula.Proofs.Evaluation.Laziness
import Formula.Proofs.Value.Order
import Formula.Proofs.Value.Views

/-!
# Instants as text

Without a format an instant is written in the zone of the settings, and the text names the zone, so
it is read as the same instant whatever zone is set (`BuiltIn.dateParse_textIn`). This is so of the
years with four digits in that zone; a year is what clocks show there, which can be another one than
in universal time.
-/

namespace Formula

/-! ## What the functions do -/

namespace BuiltIn

variable {context : CallContext} {token : Token} {t : Instant} {offset : ℤ}

theorem dateFormat_instant (t : Instant) : dateFormat context token [.instant t] =
    .ok (.text (t.textIn context.settings.zoneOffset)) := rfl

/-- The text of an instant in any zone of whole minutes is parsed as the instant. -/
theorem dateParse_textIn (hplain : t.isLeap = false) (hminutes : offset % 60 = 0)
    (hday : offset.natAbs < secondsPerDay)
    (hyear : 0 ≤ (t.toLocal offset).date.year ∧ (t.toLocal offset).date.year ≤ 9999) :
    dateParse context token [.text (t.textIn offset)] = .ok (.instant t) := by
  have hread : Rfc3339.read? (Text.trim (t.textIn offset).toList) = some t := by
    rw [Value.trim_textIn hyear]
    exact Rfc3339.read?_textIn hplain hminutes hday hyear
  have htext : token.textArgument [.text (t.textIn offset)] 0 = .ok (t.textIn offset) := rfl
  simp only [dateParse, htext, bind, Except.bind, List.drop_succ_cons, List.drop_zero, hread]
  rfl

end BuiltIn

/-! ## Formulas -/

namespace Scope

variable {scope : Scope} {token : Token} {x : Tree} {a : Value} {levels : Nat}

/-- The token calls the built-in function of a name. -/
def CallsBuiltIn (scope : Scope) (token : Token) (name : String) : Prop :=
  token.kind = .function ∧ scope.functionOf? token = BuiltIn.functionTable.find? name

/-- With the built-in functions a token that is not bound calls the one of its name. -/
theorem callsBuiltIn_of_unbound (hfunctions : scope.configuration.functions = BuiltIn.functionTable)
    (name : String) (position : Nat) :
    scope.CallsBuiltIn ⟨.function, name, position, none⟩ name := by
  have hfound : scope.functionOf? ⟨.function, name, position, none⟩ =
      BuiltIn.functionTable.find? name := by
    rw [functionOf?, hfunctions]
    exact Option.none_or
  exact ⟨rfl, hfound⟩

/-- A call with one argument, of which the function demands nothing, does what the function does to
    the argument's value. -/
theorem evaluateWithin_call {name : String} {function : LibraryFunction}
    (hcalls : scope.CallsBuiltIn token name) (hmem : (name, function) ∈ BuiltIn.functions)
    (hdemand : ∀ parameter ∈ function.signature.parameters,
      parameter.nonZero = false ∧ parameter.nonNegative = false)
    (heager : isLazy function.signature 0 = false)
    (hx : scope.evaluateWithin levels x = .ok a) :
    scope.evaluateWithin (levels + 1) (.node token [x]) =
      (BuiltIn.applyFunction scope.configuration.hostFunctions
        (scope.context (scope.evaluateWithin levels)) token function.action [a]).map
          (·.finish scope.settings) := by
  obtain ⟨hkind, hfound⟩ := hcalls
  rw [BuiltIn.find?_functionTable hmem] at hfound
  have hlazy : ∀ index, index ≤ ([] : List Tree).length →
      isLazy function.signature index = decide (0 < index) := by
    intro index hindex
    rw [Nat.le_zero.mp hindex, heager]
    rfl
  have hstep : scope.step (scope.evaluateWithin levels) (.node token [x]) =
      BuiltIn.applyFunction scope.configuration.hostFunctions
        (scope.context (scope.evaluateWithin levels)) token function.action [a] := by
    rw [step_function hkind, functionValue_first hfound hdemand hlazy x, hx]
    rfl
  rw [evaluateWithin_succ, hstep]
  cases BuiltIn.applyFunction _ _ _ _ _ <;> rfl

/-- Formatting an instant outside leap seconds without a format and parsing the text leads back to
    the instant, with its nanoseconds, where the settings have a zone of whole minutes that is less
    than a day from universal time, and the year in that zone has four digits. -/
theorem evaluateWithin_dateParse_dateFormat {format parse : Token}
    (hformat : scope.CallsBuiltIn format "DT_DATE_FORMAT")
    (hparse : scope.CallsBuiltIn parse "DT_DATE_PARSE")
    (hminutes : scope.settings.zoneOffset % 60 = 0)
    (hday : scope.settings.zoneOffset.natAbs < secondsPerDay) {t : Instant}
    (hplain : t.isLeap = false)
    (hyear : 0 ≤ (t.toLocal scope.settings.zoneOffset).date.year ∧
      (t.toLocal scope.settings.zoneOffset).date.year ≤ 9999)
    (hx : scope.evaluateWithin levels x = .ok (.instant t)) :
    ∃ text : String, scope.evaluateWithin (levels + 1) (.node format [x]) = .ok (.text text) ∧
      scope.evaluateWithin (levels + 2) (.node parse [.node format [x]]) = .ok (.instant t) := by
  have hformatting : ("DT_DATE_FORMAT", ⟨BuiltIn.variadic ["value"] "format", .dateFormat⟩) ∈
      BuiltIn.functions := by
    simp [BuiltIn.functions, BuiltIn.timeFunctions]
  have hparsing : ("DT_DATE_PARSE", ⟨BuiltIn.variadic ["value"] "formats", .dateParse⟩) ∈
      BuiltIn.functions := by
    simp [BuiltIn.functions, BuiltIn.timeFunctions]
  have hwritten : scope.evaluateWithin (levels + 1) (.node format [x]) =
      .ok (.text (t.textIn scope.settings.zoneOffset)) := by
    rw [evaluateWithin_call hformat hformatting (by decide) (by decide) hx]
    change (BuiltIn.dateFormat (scope.context _) format [.instant t]).map _ = _
    rw [BuiltIn.dateFormat_instant]
    rfl
  have hread : scope.evaluateWithin (levels + 2) (.node parse [.node format [x]]) =
      .ok (.instant t) := by
    rw [evaluateWithin_call hparse hparsing (by decide) (by decide) hwritten]
    change (BuiltIn.dateParse _ _ _).map _ = _
    rw [BuiltIn.dateParse_textIn hplain hminutes hday hyear]
    rfl
  exact ⟨_, hwritten, hread⟩

/-- The standard configuration in a zone of three and a half hours west, with a variable. -/
def inWesternZone (x : Value) : Scope :=
  { Scope.ofPair x .null with
    configuration := Configuration.standard.withSettings
      { Settings.standard with zoneOffset := -12600 } }

/-- In that zone the year 10000 begins three and a half hours after it does in universal time, so in
    the second before that the year still has four digits. -/
theorem evaluateWithin_dateParse_dateFormat_western :
    let t : Instant := ⟨253402313399, 1, by decide, by decide, by decide⟩
    let x : Tree := .node ⟨.name, "x", 29, none⟩ []
    let format : Token := ⟨.function, "DT_DATE_FORMAT", 14, none⟩
    let parse : Token := ⟨.function, "DT_DATE_PARSE", 0, none⟩
    t.isLeap = false ∧ (t.toLocal (-12600)).date = ⟨9999, 12, 31⟩ ∧
      ∃ text : String,
        (inWesternZone (.instant t)).evaluateWithin 2 (.node format [x]) = .ok (.text text) ∧
        (inWesternZone (.instant t)).evaluateWithin 3 (.node parse [.node format [x]]) =
          .ok (.instant t) := by
  intro t x format parse
  have hdate : (t.toLocal (-12600)).date = ⟨9999, 12, 31⟩ := by decide +kernel
  have hyear : 0 ≤ (t.toLocal (-12600)).date.year ∧ (t.toLocal (-12600)).date.year ≤ 9999 := by
    rw [hdate]
    decide
  have hx : (inWesternZone (.instant t)).evaluateWithin 1 x = .ok (.instant t) :=
    evaluateWithin_variable rfl (lookup?_ofPair (.instant t) .null).1 rfl rfl
  have hfunctions : (inWesternZone (.instant t)).configuration.functions = BuiltIn.functionTable :=
    rfl
  have hformat : (inWesternZone (.instant t)).CallsBuiltIn format "DT_DATE_FORMAT" :=
    callsBuiltIn_of_unbound hfunctions _ _
  have hparse : (inWesternZone (.instant t)).CallsBuiltIn parse "DT_DATE_PARSE" :=
    callsBuiltIn_of_unbound hfunctions _ _
  have hminutes : (inWesternZone (.instant t)).settings.zoneOffset % 60 = 0 := rfl
  have hday : (inWesternZone (.instant t)).settings.zoneOffset.natAbs < secondsPerDay := by decide
  exact ⟨rfl, hdate,
    evaluateWithin_dateParse_dateFormat hformat hparse hminutes hday rfl hyear hx⟩

end Scope
end Formula
