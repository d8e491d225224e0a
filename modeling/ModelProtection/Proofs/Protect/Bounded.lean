/-
A model is written whole or refused.

A model goes into its buffer in many small portions, and the buffer knows nothing of
the document: it refuses the portion that does not fit. What was taken until then is
thrown away, so the outcome is that of the whole text (`writePortions_eq`): the text
as it would be written without a bound, or an error. The portions in which the text
is handed over play no part in it, nor does the place where the bound falls.
-/
import ModelProtection.Proofs.Json.Layout
import ModelProtection.Proofs.Protect.Capacity

set_option autoImplicit false

namespace ModelProtection

/-- **A model is written whole or refused.** For every model and every capacity that can be reserved,
what is written is the whole indented text of the model, if it is no longer than the capacity, and
otherwise nothing is written and the capacity is reported. It is the same for all ways to cut the text
into portions, whichever of them is the one that does not fit. -/
theorem model_written_whole_or_refused (d : ModelDocument) (capacity : Nat)
    (hcapacity : capacity ≤ Buffer.mostCapacity) :
    let text := Utf8.encode (d.toJson.indented 0)
    d.toBytes capacity
        = (if text.length ≤ capacity then .ok text else .error (.serialization (.model ⟨capacity⟩)))
      ∧ ∀ portions : List Bytes, portions.flatten = text →
        writePortions portions capacity .model = d.toBytes capacity := by
  intro text
  have htext : text = Utf8.encode d.toJson.pretty := by rw [Json.pretty_eq_indented]
  have hmost : ¬ Buffer.mostCapacity < capacity := Nat.not_lt.2 hcapacity
  have hwritten : d.toBytes capacity
      = if text.length ≤ capacity then .ok text
        else .error (.serialization (.model ⟨capacity⟩)) := by
    rw [htext]
    exact (Json.writeBounded_eq d.toJson capacity .model).trans (if_neg hmost)
  refine ⟨hwritten, ?_⟩
  intro portions hportions
  rw [hwritten, writePortions_eq, if_neg hmost, hportions]

/-- The sample model fits a buffer of its own length and none that is shorter, also byte by byte. -/
theorem model_written_whole_or_refused_sample :
    let d := ModelDocument.escapedSample
    let text := Utf8.encode (d.toJson.indented 0)
    text.length = 248
      ∧ d.toBytes 248 = .ok text ∧ d.toBytes 247 = .error (.serialization (.model ⟨247⟩))
      ∧ writePortions (text.map fun b => [b]) 248 .model = .ok text
      ∧ writePortions (text.map fun b => [b]) 247 .model = .error (.serialization (.model ⟨247⟩)) := by
  intro d text
  have hlength : text.length = 248 := by decide +kernel
  have hshort : ¬ text.length ≤ 247 := by omega
  have hcut : (text.map fun b => [b]).flatten = text := by
    rw [← List.flatMap_def, List.flatMap_singleton']
  obtain ⟨hwhole, hwholeCut⟩ := model_written_whole_or_refused d 248 (by decide)
  obtain ⟨hrefused, hrefusedCut⟩ := model_written_whole_or_refused d 247 (by decide)
  rw [if_pos (Nat.le_of_eq hlength)] at hwhole
  rw [if_neg hshort] at hrefused
  exact ⟨hlength, hwhole, hrefused, (hwholeCut _ hcut).trans hwhole,
    (hrefusedCut _ hcut).trans hrefused⟩

end ModelProtection
