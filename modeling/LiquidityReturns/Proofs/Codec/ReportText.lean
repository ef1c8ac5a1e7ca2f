import Mathlib
import LiquidityReturns.Codec.Summary
import LiquidityReturns.Proofs.Decimal.CanonicalText
import LiquidityReturns.Proofs.Decimal.Descaled
import LiquidityReturns.Proofs.Json.Records
import LiquidityReturns.Proofs.Returns.ReportSides

namespace LiquidityReturns

/-!
# The texts of a report

Every number of a summary has an entry of its own in the document of a report:
the section is that of its side or its unit of account, and the entry is named
for its flow or return.  The entry is the canonical text of the number taken
down to whole coins, which loses nothing of an amount with at most twenty
fractional digits.
-/

open List

/-- One of the three flows of a summary. -/
inductive SummaryFlow where
  | added
  | withdrawn
  | redeemable
  deriving Repr, DecidableEq

/-- One of the two returns of a summary. -/
inductive SummaryReturn where
  | realized
  | total
  deriving Repr, DecidableEq

/-- One of the twenty-one numbers of a summary. -/
inductive SummaryPart where
  | ofFlow (flow : SummaryFlow) (part : FlowPart)
  | ofReturn (kind : SummaryReturn) (unit : Denomination)
  deriving DecidableEq

namespace SummaryFlow

/-- The entry of a flow in every section of a report. -/
def entry : SummaryFlow → String
  | .added =>
      "added"
  | .withdrawn =>
      "withdrawn"
  | .redeemable =>
      "redeemable"

end SummaryFlow

namespace SummaryReturn

/-- The entry of a return in the sections of the units of account. -/
def entry : SummaryReturn → String
  | .realized =>
      "realizedReturn"
  | .total =>
      "totalReturn"

end SummaryReturn

namespace FlowPart

/-- The section of a report that shows a part of the flows. -/
def reportSection : FlowPart → String
  | .rune =>
      "rune"
  | .asset =>
      "asset"
  | .value .rune =>
      "valueInRune"
  | .value .asset =>
      "valueInAsset"
  | .value .usd =>
      "valueInUsd"

end FlowPart

namespace SummaryPart

/-- The part of the flows with which a report shows a number. -/
def place : SummaryPart → FlowPart
  | .ofFlow _ part =>
      part
  | .ofReturn _ unit =>
      .value unit

/-- The entry of a number within its section. -/
def entry : SummaryPart → String
  | .ofFlow flow _ =>
      flow.entry
  | .ofReturn kind _ =>
      kind.entry

/-- The numbers of a summary in the order in which they are written. -/
def all : List SummaryPart :=
  [SummaryFlow.added, .withdrawn, .redeemable].flatMap flowParts ++
    [SummaryReturn.realized, .total].flatMap returnParts
where
  flowParts (flow : SummaryFlow) : List SummaryPart :=
    .ofFlow flow .rune :: .ofFlow flow .asset ::
      Denomination.all.map fun unit => .ofFlow flow (.value unit)
  returnParts (kind : SummaryReturn) : List SummaryPart :=
    Denomination.all.map (.ofReturn kind)

theorem mem_all (part : SummaryPart) : part ∈ all := by
  rcases part with ⟨flow, part⟩ | ⟨kind, unit⟩
  · rcases part with _ | _ | unit
    · cases flow <;> decide
    · cases flow <;> decide
    · cases flow <;> cases unit <;> decide
  · cases kind <;> cases unit <;> decide

end SummaryPart

namespace ReturnSummary

/-- One flow of a summary. -/
def flow (summary : ReturnSummary) : SummaryFlow → Flow
  | .added =>
      summary.added
  | .withdrawn =>
      summary.withdrawn
  | .redeemable =>
      summary.redeemable

/-- One return of a summary. -/
def valueOfReturn (summary : ReturnSummary) : SummaryReturn → Valuation
  | .realized =>
      summary.realizedReturn
  | .total =>
      summary.totalReturn

/-- One number of a summary. -/
def number (summary : ReturnSummary) : SummaryPart → Decimal
  | .ofFlow flow part =>
      (summary.flow flow).part part
  | .ofReturn kind unit =>
      (summary.valueOfReturn kind).inUnit unit

/-- Summaries that agree in every number are the same. -/
theorem ext_numbers
    {left right : ReturnSummary}
    (same : ∀ part, left.number part = right.number part) :
    left = right := by
  have flows (flow : SummaryFlow) : left.flow flow = right.flow flow :=
    Flow.ext_parts fun part => same (.ofFlow flow part)
  have returns (kind : SummaryReturn) :
      left.valueOfReturn kind = right.valueOfReturn kind :=
    Valuation.ext_units fun unit => same (.ofReturn kind unit)
  have added := flows .added
  have withdrawn := flows .withdrawn
  have redeemable := flows .redeemable
  have realized := returns .realized
  have total := returns .total
  cases left
  cases right
  simp only [flow, valueOfReturn] at added withdrawn redeemable realized total
  rw [added, withdrawn, redeemable, realized, total]

/-- A summary whose numbers have at most twenty fractional digits. -/
def FewDigits (summary : ReturnSummary) : Prop :=
  ∀ part, (summary.number part).scale ≤ Decimal.exactScale

instance (summary : ReturnSummary) : Decidable summary.FewDigits :=
  decidable_of_iff
    (∀ part ∈ SummaryPart.all,
      (summary.number part).scale ≤ Decimal.exactScale)
    ⟨fun few part => few part part.mem_all, fun few part _ => few part⟩

end ReturnSummary

namespace SideReport

/-- The amount of one flow. -/
def amount (report : SideReport) : SummaryFlow → Decimal
  | .added =>
      report.added
  | .withdrawn =>
      report.withdrawn
  | .redeemable =>
      report.redeemable

/-- The section of a side shows the amount of each flow. -/
theorem field?_toJson (report : SideReport) (flow : SummaryFlow) :
    report.toJson.field? flow.entry = some (report.amount flow).toJson := by
  have names :
      ([("added", report.added.toJson),
        ("withdrawn", report.withdrawn.toJson),
        ("redeemable", report.redeemable.toJson),
        ("gain", report.gain.toJson)] ++
        Json.presentField "gainPercent" Decimal.toJson
          report.gainPercent).map Prod.fst <+
      ["added", "withdrawn", "redeemable", "gain", "gainPercent"] := by
    rw [List.map_append]
    exact (Sublist.refl _).append (Json.names_presentField _ _)
  unfold toJson
  rw [Json.field?_record (names.nodup (by decide))]
  cases flow <;> rfl

end SideReport

namespace ValueReport

/-- The value of one flow. -/
def ofFlow (report : ValueReport) : SummaryFlow → Decimal
  | .added =>
      report.added
  | .withdrawn =>
      report.withdrawn
  | .redeemable =>
      report.redeemable

/-- The value of one return. -/
def ofReturn (report : ValueReport) : SummaryReturn → Decimal
  | .realized =>
      report.realizedReturn
  | .total =>
      report.totalReturn

/-- The section of a unit of account shows the value of each flow. -/
theorem field?_flow (report : ValueReport) (flow : SummaryFlow) :
    report.toJson.field? flow.entry = some (report.ofFlow flow).toJson := by
  unfold toJson
  rw [Json.field?_record (by simp)]
  cases flow <;> rfl

/-- The section of a unit of account shows the value of each return. -/
theorem field?_return (report : ValueReport) (kind : SummaryReturn) :
    report.toJson.field? kind.entry = some (report.ofReturn kind).toJson := by
  unfold toJson
  rw [Json.field?_record (by simp)]
  cases kind <;> rfl

end ValueReport

namespace PositionReport

/-- The number that a report shows for a number of its summary. -/
def number (report : PositionReport) : SummaryPart → Decimal
  | .ofFlow flow .rune =>
      report.rune.amount flow
  | .ofFlow flow .asset =>
      report.asset.amount flow
  | .ofFlow flow (.value unit) =>
      (report.inUnit unit).ofFlow flow
  | .ofReturn kind unit =>
      (report.inUnit unit).ofReturn kind

/-- A report shows every number of its summary in whole coins. -/
theorem number_eq_descaled
    {summary : ReturnSummary}
    {report : PositionReport}
    (computed : ofSummary summary = .ok report)
    (part : SummaryPart) :
    report.number part = (summary.number part).descaled := by
  obtain ⟨sides, units⟩ := ofSummary_eq_ok_iff.mp computed
  have amounts (side : PoolSide) (flow : SummaryFlow) :
      (report.side side).amount flow =
        ((summary.flow flow).part side.part).descaled := by
    obtain ⟨added, withdrawn, redeemable, _⟩ :=
      SideReport.ofAmounts_eq_ok_iff.mp (sides side)
    cases flow
    · exact added
    · exact withdrawn
    · exact redeemable
  cases part with
  | ofFlow flow part =>
      cases part with
      | rune =>
          exact amounts .rune flow
      | asset =>
          exact amounts .asset flow
      | value unit =>
          simp only [number, units unit]
          cases flow <;> rfl
  | ofReturn kind unit =>
      simp only [number, units unit]
      cases kind <;> rfl

/-- The section of a part of the flows as a document. -/
def sectionJson (report : PositionReport) : FlowPart → Json
  | .rune =>
      report.rune.toJson
  | .asset =>
      report.asset.toJson
  | .value unit =>
      (report.inUnit unit).toJson

/-- Each section of a report stands under its own name. -/
theorem field?_section (report : PositionReport) (part : FlowPart) :
    report.toJson.field? part.reportSection =
      some (report.sectionJson part) := by
  unfold toJson
  rw [Json.field?_record (by simp)]
  rcases part with _ | _ | unit
  · rfl
  · rfl
  · cases unit <;> rfl

/-- Each number stands in its section under the name of its entry. -/
theorem field?_entry (report : PositionReport) (part : SummaryPart) :
    (report.sectionJson part.place).field? part.entry =
      some (report.number part).toJson := by
  cases part with
  | ofFlow flow part =>
      rcases part with _ | _ | unit
      · exact report.rune.field?_toJson flow
      · exact report.asset.field?_toJson flow
      · exact (report.inUnit unit).field?_flow flow
  | ofReturn kind unit =>
      exact (report.inUnit unit).field?_return kind

/-- The text in the entry of a number in the document of a report. -/
def text? (document : Json) (part : SummaryPart) : Option String := do
  let shown ← document.field? part.place.reportSection
  let entry ← shown.field? part.entry
  entry.string?

/--
The entry of a number holds the canonical text of what the report shows for it.
-/
theorem text?_toJson (report : PositionReport) (part : SummaryPart) :
    text? report.toJson part = some (report.number part).text := by
  unfold text?
  simp only [field?_section, field?_entry, Option.bind_eq_bind,
    Option.bind_some]
  rfl

/-- With few digits an entry reads as the exact number of whole coins. -/
theorem exists_read_text?
    {summary : ReturnSummary}
    {report : PositionReport}
    (few : summary.FewDigits)
    (computed : ofSummary summary = .ok report)
    (part : SummaryPart) :
    ∃ text shown,
      text? report.toJson part = some text ∧
        Decimal.read text = .ok shown ∧
        shown.value = (summary.number part).value / 10 ^ 8 := by
  refine ⟨_, _, report.text?_toJson part, Decimal.read_text _, ?_⟩
  rw [number_eq_descaled computed part]
  exact Decimal.value_descaled (few part)

/-- With few digits, reports with one document are of one summary. -/
theorem summary_eq_of_toJson_eq
    {left right : ReturnSummary}
    {leftReport rightReport : PositionReport}
    (leftFew : left.FewDigits)
    (rightFew : right.FewDigits)
    (leftComputed : ofSummary left = .ok leftReport)
    (rightComputed : ofSummary right = .ok rightReport)
    (same : leftReport.toJson = rightReport.toJson) :
    left = right := by
  apply ReturnSummary.ext_numbers
  intro part
  have texts :
      (leftReport.number part).text = (rightReport.number part).text := by
    have found := congrArg (text? · part) same
    simpa only [text?_toJson, Option.some.injEq] using found
  have shown := Decimal.text_injective texts
  rw [number_eq_descaled leftComputed, number_eq_descaled rightComputed]
    at shown
  have coins := congrArg Decimal.value shown
  rw [Decimal.value_descaled (leftFew part),
    Decimal.value_descaled (rightFew part)] at coins
  exact Decimal.value_injective
    ((div_left_inj' (by norm_num)).mp coins)

end PositionReport

/--
A number is taken down to whole coins without overflow and within half a unit
of the last place, and exactly when it has at most twenty fractional digits.
Every number of a summary of such numbers therefore reads back from its entry
in the document of the report, and two such summaries with one document are
the same.
-/
theorem report_texts_lose_nothing :
    (∀ number : Decimal,
      number.mul? Decimal.ledgerUnit = some number.descaled ∧
        |number.descaled.value - number.value / 10 ^ 8| ≤ 1 / 2 / 10 ^ 28 ∧
        (number.scale ≤ Decimal.exactScale →
          number.descaled.value = number.value / 10 ^ 8)) ∧
    (∀ (summary : ReturnSummary) report,
      summary.FewDigits →
        PositionReport.ofSummary summary = .ok report →
          ∀ part,
            ∃ text shown,
              PositionReport.text? report.toJson part = some text ∧
                Decimal.read text = .ok shown ∧
                shown.value = (summary.number part).value / 10 ^ 8) ∧
    ∀ (left right : ReturnSummary) leftReport rightReport,
      left.FewDigits →
        right.FewDigits →
          PositionReport.ofSummary left = .ok leftReport →
            PositionReport.ofSummary right = .ok rightReport →
              left ≠ right → leftReport.toJson ≠ rightReport.toJson := by
  refine ⟨?_, ?_, ?_⟩
  · intro number
    exact ⟨number.mul?_ledgerUnit, number.abs_descaled_sub_le,
      Decimal.value_descaled⟩
  · intro summary report few computed part
    exact PositionReport.exists_read_text? few computed part
  · intro left right leftReport rightReport leftFew rightFew leftComputed
      rightComputed different same
    exact different
      (PositionReport.summary_eq_of_toJson_eq leftFew rightFew leftComputed
        rightComputed same)

namespace Sample

/-- A summary whose only number is the smallest that is taken down exactly. -/
def faintReturn : ReturnSummary where
  added := .zero
  withdrawn := .zero
  redeemable := .zero
  realizedReturn := .zero
  totalReturn := {
    Valuation.zero with
      inUsd := ⟨1, Decimal.exactScale, Decimal.one_le_maxCoefficient,
        Nat.sub_le _ _, .inr (by decide)⟩
  }

end Sample

/--
The smallest such number shows in the report and tells it from that of nothing.
-/
theorem report_texts_lose_nothing_sample :
    ∃ report nothing text shown,
      PositionReport.ofSummary Sample.faintReturn = .ok report ∧
        PositionReport.ofSummary .zero = .ok nothing ∧
        PositionReport.text? report.toJson (.ofReturn .total .usd) =
          some text ∧
        Decimal.read text = .ok shown ∧
        shown.value = 1 / 10 ^ 28 ∧
        report.toJson ≠ nothing.toJson := by
  have few : Sample.faintReturn.FewDigits := by
    decide
  have noDigits : ReturnSummary.zero.FewDigits := by
    decide
  obtain ⟨report, computed⟩ :=
    Outcome.exists_of_toOption_isSome
      (show (PositionReport.ofSummary Sample.faintReturn).toOption.isSome =
        true by decide +kernel)
  obtain ⟨nothing, nothingComputed⟩ :=
    Outcome.exists_of_toOption_isSome
      (show (PositionReport.ofSummary .zero).toOption.isSome = true by
        decide +kernel)
  have lawful := report_texts_lose_nothing
  obtain ⟨text, shown, found, reads, value⟩ :=
    lawful.2.1 _ report few computed (.ofReturn .total .usd)
  refine ⟨report, nothing, text, shown, computed, nothingComputed, found,
    reads, ?_, ?_⟩
  · rw [value]
    decide +kernel
  · exact lawful.2.2 _ _ report nothing few noDigits computed
      nothingComputed (by decide)

end LiquidityReturns
