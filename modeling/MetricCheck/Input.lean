-- Rules, metrics and graph definitions from the bytes of an input.
import MetricCheck.Failure
import MetricCheck.RuleText.Read
import MetricCheck.MetricText.Read
import MetricCheck.GraphDef.Read

namespace MetricCheck

/-- The rules of an input of rule text. -/
def readRules (bytes : ByteArray) : Except Failure (List Rule) :=
  match textOf bytes with
  | .error e => .error (.input e)
  | .ok text => (parseRules text).mapError .rules

/-- The metrics of an input of metric text. -/
def readMetrics (bytes : ByteArray) : Except Failure (List Metric) :=
  match textOf bytes with
  | .error e => .error (.input e)
  | .ok text => (parseMetrics text).mapError .metrics

/-- The rules that the graph definitions of a document stand for. -/
def readGraphRules (bytes : ByteArray) : Except Failure (List Rule) :=
  match readGraphDefs bytes with
  | .error d => .error (.graphs bytes.data.toList d)
  | .ok defs => .ok (generateRules defs)

theorem readRules_toUTF8 (text : String) :
    readRules text.toUTF8 = (parseRules text).mapError .rules := by
  unfold readRules
  rw [textOf_toUTF8]

theorem readMetrics_toUTF8 (text : String) :
    readMetrics text.toUTF8 = (parseMetrics text).mapError .metrics := by
  unfold readMetrics
  rw [textOf_toUTF8]

/-! ## Where there is no failure -/

section

variable {ε ε' α β : Type} {x : Except ε α}

theorem mapError_eq_ok_iff {f : ε → ε'} {a : α} : x.mapError f = .ok a ↔ x = .ok a := by
  cases x with
  | error e => exact ⟨nofun, nofun⟩
  | ok b =>
    constructor
    · intro h
      cases h
      rfl
    · intro h
      cases h
      rfl

theorem map_eq_ok_iff {f : α → β} {b : β} : x.map f = .ok b ↔ ∃ a, x = .ok a ∧ f a = b := by
  cases x <;> simp [Except.map]

theorem map_eq_error_iff {f : α → β} {e : ε} : x.map f = .error e ↔ x = .error e := by
  cases x <;> simp [Except.map]

theorem bind_eq_ok_iff {f : α → Except ε β} {b : β} :
    x >>= f = .ok b ↔ ∃ a, x = .ok a ∧ f a = .ok b := by
  cases x <;> simp [bind, Except.bind]

end

theorem exists_text_of_readRules {bytes : ByteArray} {rules : List Rule}
    (h : readRules bytes = .ok rules) : ∃ text, parseRules text = .ok rules := by
  unfold readRules at h
  split at h
  · cases h
  · exact ⟨_, mapError_eq_ok_iff.1 h⟩

theorem exists_text_of_readMetrics {bytes : ByteArray} {metrics : List Metric}
    (h : readMetrics bytes = .ok metrics) : ∃ text, parseMetrics text = .ok metrics := by
  unfold readMetrics at h
  split at h
  · cases h
  · exact ⟨_, mapError_eq_ok_iff.1 h⟩

end MetricCheck
