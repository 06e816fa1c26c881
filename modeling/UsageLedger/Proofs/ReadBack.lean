import UsageLedger.Store.Metrics
import UsageLedger.Store.Requests
import UsageLedger.Telemetry.Reading

/-!
# Values as they are read back

A row that was written is read as the value it was written for, up to what its
columns can hold: a count stops at the largest integer, and a cost comes back as
an equal number, which need not have the same sign if it is zero.  A cost that
is not a number comes back as none, and a metric that has no other cost cannot
be written; the metrics that an import makes of its rows always can.
-/

namespace UsageLedger

open UsageLedger.Store

/-! ## Equal numbers -/

theorem isNaN_eq_false_of_isFinite {value : Float} (finite : value.isFinite = true) :
    value.isNaN = false := by
  have finiteParts : value.toModel.unpack.isFinite = true := finite
  show value.toModel.unpack.isNaN = false
  generalize value.toModel.unpack = parts at finiteParts ⊢
  cases parts with
  | infinity sign => cases finiteParts
  | notANumber => cases finiteParts
  | zero sign => rfl
  | finite sign mantissa exponent positive => rfl

theorem beq_self_of_isNaN_eq_false {value : Float} (isNumber : value.isNaN = false) :
    (value == value) = true := by
  have numberParts : value.toModel.unpack.isNaN = false := isNumber
  show value.toModel.unpack.beq value.toModel.unpack = true
  generalize value.toModel.unpack = parts at numberParts ⊢
  cases parts with
  | infinity sign => cases sign <;> rfl
  | notANumber => cases numberParts
  | zero sign => rfl
  | finite sign mantissa exponent positive =>
      have same : (compare exponent exponent).then (compare mantissa mantissa) = .eq := by
        rw [Std.compare_self, Std.compare_self]
        rfl
      cases sign with
      | negative => exact congrArg (fun order => some order.swap == some Ordering.eq) same
      | positive => exact congrArg (fun order => some order == some Ordering.eq) same

theorem zero_beq_of_beq_zero {value : Float} (same : (value == 0.0) = true) :
    ((0.0 : Float) == value) = true := by
  have zero : (0.0 : Float).toModel.unpack = .zero .positive := by rfl
  have sameParts : value.toModel.unpack.beq (0.0 : Float).toModel.unpack = true := same
  show (0.0 : Float).toModel.unpack.beq value.toModel.unpack = true
  rw [zero] at sameParts ⊢
  generalize value.toModel.unpack = parts at sameParts ⊢
  cases parts with
  | infinity sign => cases sign <;> cases sameParts
  | notANumber => cases sameParts
  | zero sign => rfl
  | finite sign mantissa exponent positive => cases sign <;> cases sameParts

/-- A double that is a number is equal to itself without the sign of a zero. -/
theorem withoutZeroSign_beq {value : Float} (isNumber : value.isNaN = false) :
    (withoutZeroSign value == value) = true := by
  unfold withoutZeroSign
  split
  · rename_i zero
    exact zero_beq_of_beq_zero zero
  · exact beq_self_of_isNaN_eq_false isNumber

/-! ## Metrics and records -/

/-- The largest count that a column holds. -/
def columnLimit : Nat := 9223372036854775807

/-- A metric is what another one is read back as. -/
structure DailyMetric.ReadsAs (written read : DailyMetric) : Prop where
  date : read.date = written.date
  model : read.model = written.model
  inputTokens : read.inputTokens = min written.inputTokens columnLimit
  outputTokens : read.outputTokens = min written.outputTokens columnLimit
  totalTokens : read.totalTokens = min written.totalTokens columnLimit
  requestCount : read.requestCount = min written.requestCount columnLimit
  totalCost : (read.totalCost == written.totalCost) = true

/-- A record is what another one is read back as. -/
structure RequestRecord.ReadsAs (written read : RequestRecord) : Prop where
  id : read.id = written.id
  traceId : read.traceId = written.traceId
  name : read.name = written.name
  model : read.model = written.model
  startedAt : read.startedAt = written.startedAt
  finishedAt : read.finishedAt = written.finishedAt
  inputTokens : read.inputTokens = min written.inputTokens columnLimit
  outputTokens : read.outputTokens = min written.outputTokens columnLimit
  totalTokens : read.totalTokens = min written.totalTokens columnLimit
  latencyMs : read.latencyMs = written.latencyMs
  /-- A cost comes back exactly if it is a number, and as an equal one. -/
  cost : Option.Rel (fun first second => (first == second) = true) read.cost
    (written.cost.filter fun cost => !cost.isNaN)

theorem readsAs_cutMetric {metric : DailyMetric} (valued : hasCost metric = true) :
    metric.ReadsAs (cutMetric metric) where
  date := rfl
  model := rfl
  inputTokens := rfl
  outputTokens := rfl
  totalTokens := rfl
  requestCount := rfl
  totalCost := withoutZeroSign_beq (Bool.not_eq_true' _ ▸ valued)

theorem readsAs_cutRecord (record : RequestRecord) : record.ReadsAs (cutRecord record) where
  id := rfl
  traceId := rfl
  name := rfl
  model := rfl
  startedAt := rfl
  finishedAt := rfl
  inputTokens := rfl
  outputTokens := rfl
  totalTokens := rfl
  latencyMs := rfl
  cost := by
    show Option.Rel _ ((keptReal record.cost).map withoutZeroSign) (keptReal record.cost)
    cases kept : keptReal record.cost with
    | none => exact .none
    | some cost =>
        have isNumber := (Option.filter_eq_some_iff.1 kept).2
        exact .some (withoutZeroSign_beq (by simpa using isNumber))

/-! ## Costs that an import reads -/

namespace Telemetry

theorem isFinite_of_amount? {value : Json} {amount : Float} (read : amount? value = some amount) :
    amount.isFinite = true :=
  (Option.filter_eq_some_iff.1 read).2

theorem isFinite_getD_amount? (value : Json) : ((amount? value).getD 0.0).isFinite = true := by
  cases read : amount? value with
  | none => rfl
  | some amount => exact isFinite_of_amount? read

/-- Every metric that is made of a row can be written. -/
theorem all_hasCost_dailyMetrics (rows : List MetricRow) :
    (Telemetry.dailyMetrics rows).rows.all hasCost = true := by
  refine List.all_eq_true.2 fun metric member => ?_
  rcases List.mem_filterMap.1 member with ⟨row, -, read⟩
  rcases Option.bind_eq_some_iff.1 read with ⟨date, -, built⟩
  cases built
  rw [hasCost, isNaN_eq_false_of_isFinite (isFinite_getD_amount? row.totalCost)]
  rfl

end Telemetry

end UsageLedger
