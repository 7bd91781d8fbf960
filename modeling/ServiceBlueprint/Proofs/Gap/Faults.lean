import Mathlib
import ServiceBlueprint.Proofs.Gap.RuleSet
import ServiceBlueprint.Proofs.Markup.Filling

/-!
# Documents of rules that fault

A text gives rules or is refused as a document of rules, except that a fault of the markup is
passed on as it is. The text itself is to blame for such a fault.
-/

namespace ServiceBlueprint

namespace Gap

namespace RuleSet

theorem ofMarkup_isOk_iff {content : String} :
    (∃ s, ofMarkup content = .ok s) ↔ ∃ document d, Markup.read content = .ok document ∧
      (RuleDocument.check document).result = some d ∧ d.Usable := by
  simp only [← RuleDocument.toRules_isOk_iff]
  constructor
  · rintro ⟨s, hs⟩
    cases hread : Markup.read content with
    | ok document =>
      rw [ofMarkup_eq hread, asFault_eq_ok_iff, ofDocument_eq_ok_iff] at hs
      obtain ⟨d, hd, hrules⟩ := hs
      exact ⟨document, d, rfl, hd, s, hrules⟩
    | error failure =>
      rw [ofMarkup, hread] at hs
      cases failure <;> cases hs
  · rintro ⟨document, d, hread, hd, s, hrules⟩
    refine ⟨s, ?_⟩
    rw [ofMarkup_eq hread, asFault_eq_ok_iff, ofDocument_eq_ok_iff]
    exact ⟨d, hd, hrules⟩

/-- Once a text is read it gives rules or is refused as a document of rules. -/
theorem read_of_ofMarkup {content : String} {f : Fault} (h : ofMarkup content = .error f) :
    (∃ e, f = .rules e) ∨ Markup.read content = .error (.faulty f) := by
  cases hread : Markup.read content with
  | ok document =>
    rw [ofMarkup_eq hread] at h
    exact Or.inl (exists_eq_rules_of_asFault h)
  | error failure =>
    rw [ofMarkup, hread] at h
    cases failure with
    | malformed =>
      cases h
      exact Or.inl ⟨_, rfl⟩
    | faulty f =>
      cases h
      exact Or.inr rfl

/-- A text gives rules, is refused as a document of rules, or cannot be read for a reason that is
found in its escapes or in its graph. It gives rules exactly if it holds a document that has the
shape of rules that can be used. -/
theorem ofMarkup_cases (content : String) :
    ((∃ s, ofMarkup content = .ok s) ∨ (∃ e, ofMarkup content = .error (.rules e)) ∨
      ∃ f, ofMarkup content = .error f ∧ Markup.read content = .error (.faulty f) ∧
        Markup.Spoils content f) ∧
    ((∃ s, ofMarkup content = .ok s) ↔ ∃ document d, Markup.read content = .ok document ∧
      (RuleDocument.check document).result = some d ∧ d.Usable) := by
  refine ⟨?_, ofMarkup_isOk_iff⟩
  cases h : ofMarkup content with
  | ok s => exact Or.inl ⟨s, rfl⟩
  | error f =>
    right
    rcases read_of_ofMarkup h with ⟨e, rfl⟩ | hread
    · exact Or.inl ⟨e, rfl⟩
    · exact Or.inr ⟨f, rfl, hread, Markup.spoils_of_read hread⟩

/-- A document that names a day there is not. -/
def unrealDate : String :=
  "rules: 2024-02-30"

theorem read_unrealDate : Markup.read unrealDate = .error (.faulty .invalidValue) := by
  cbv

theorem not_refused_unrealDate :
    ¬ ∀ content, (∃ s, ofMarkup content = .ok s) ∨ ∃ e, ofMarkup content = .error (.rules e) := by
  intro h
  have hfault : ofMarkup unrealDate = .error .invalidValue := by
    rw [ofMarkup, read_unrealDate]
  rcases h unrealDate with ⟨s, hs⟩ | ⟨e, he⟩
  · rw [hfault] at hs
    cases hs
  · rw [hfault] at he
    cases he

end RuleSet

end Gap

end ServiceBlueprint
