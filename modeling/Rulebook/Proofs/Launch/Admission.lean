import Mathlib.Data.List.TakeWhile
import Rulebook.Launch
import Rulebook.Proofs.Service.Access
import Rulebook.Settings.Help

/-!
# Which Lists of Origins Are Admitted

A list of origins is looked at before the service listens, entry by entry, each without
the blanks around it. The list is admitted if every entry can be the value of a header,
and it is refused by an error if some entry cannot.

There is one exception. An asterisk can be the value of a header, so nothing refuses it,
but as an origin it would let in every page, which does not go with credentials. A list
with an asterisk on it is neither admitted nor refused by an error: it breaks the run
off. The settings do not keep such a list away, since an asterisk is a word like any
other there.

What an entry stands for is said by `Names`, without going through the text from its two
ends: it is the one part of the text that has nothing but blanks around it and no blank
at its own ends.

## Main definitions

* `Names`: What a text stands for, without the blanks around it.
* `Legal`: A text that stands for the value of a header.

## Theorems

* `names_iff`: What a text stands for is what is left of it when it is trimmed.
* `ofList?_eq_badValue_iff`, `ofList?_eq_wildcard_iff`: Which lists are refused, and which
  break the run off.
* `admission_law`: What comes of a list of origins.
* `asterisk_aborts`: A list that is legal and breaks the run off.
-/

namespace Rulebook

namespace Text

-- What does not start with a blank has nothing in front to lose.
theorem trimStart_of_first {cs : List Char} (first : ∀ c ∈ cs.head?, isBlank c = false) :
    trimStart cs = cs := by
  cases cs with
  | nil => rfl
  | cons c rest =>
    have visible : isBlank c = false := first c rfl
    exact List.dropWhile_cons_of_neg (by rw [visible]; exact Bool.false_ne_true)

theorem first_trimStart (cs : List Char) : ∀ c ∈ (trimStart cs).head?, isBlank c = false := by
  intro c hc
  cases h : trimStart cs with
  | nil =>
    rw [h] at hc
    exact absurd hc (Option.not_mem_none c)
  | cons d rest =>
    rw [h] at hc
    obtain rfl : d = c := Option.some.inj hc
    exact isBlank_head_trimStart h

/-- A text is blanks, what is left when it is trimmed, and blanks. -/
theorem exists_around_trim (cs : List Char) : ∃ before after,
    (∀ c ∈ before, isBlank c = true) ∧ (∀ c ∈ after, isBlank c = true) ∧
      trimStart cs = trim cs ++ after ∧ cs = before ++ trim cs ++ after := by
  have back : trimStart cs = trim cs ++ ((trimStart cs).reverse.takeWhile isBlank).reverse := by
    have whole : (trimStart cs).reverse.takeWhile isBlank ++ trimStart (trimStart cs).reverse =
        (trimStart cs).reverse := List.takeWhile_append_dropWhile
    rw [trim, ← List.reverse_append, whole, List.reverse_reverse]
  refine ⟨cs.takeWhile isBlank, ((trimStart cs).reverse.takeWhile isBlank).reverse,
    fun c hc => List.mem_takeWhile_imp hc,
    fun c hc => List.mem_takeWhile_imp (List.mem_reverse.1 hc), back, ?_⟩
  rw [List.append_assoc, ← back]
  exact List.takeWhile_append_dropWhile.symm

end Text

namespace Origins

open Text (isBlank octets)

/-! ## Entries -/

/-- What a text stands for: it has blanks around it, and none at its own ends. -/
structure Names (core : List Char) (text : String) : Prop where
  padded : Padded core text
  first : ∀ c ∈ core.head?, isBlank c = false
  last : ∀ c ∈ core.getLast?, isBlank c = false

/-- A text stands for what is left of it when it is trimmed, and for nothing else. -/
theorem names_iff {core : List Char} {text : String} :
    Names core text ↔ core = Text.trim text.toList := by
  constructor
  · rintro ⟨⟨before, after, hbefore, hafter, heq⟩, first, last⟩
    have lastBack : ∀ c ∈ core.reverse.head?, isBlank c = false := by
      rw [List.head?_reverse]
      exact last
    rw [heq, Text.trim_padded hbefore hafter, Text.trim, Text.trimStart_of_first first,
      Text.trimStart_of_first lastBack, List.reverse_reverse]
  · rintro rfl
    rcases Text.exists_around_trim text.toList with ⟨before, after, hbefore, hafter, start, heq⟩
    refine ⟨⟨before, after, hbefore, hafter, heq⟩, fun c hc => ?_, fun c hc => ?_⟩
    · -- What is left starts as the text does after its first blanks.
      refine Text.first_trimStart text.toList c ?_
      rw [start, List.head?_append, Option.mem_def.1 hc]
      rfl
    · refine Text.first_trimStart (Text.trimStart text.toList).reverse c ?_
      rw [Text.trim, List.getLast?_reverse] at hc
      exact hc

/-- A text that stands for the value of a header: octets from 32 on, apart from 127, and
    tabs. -/
def Legal (text : String) : Prop :=
  ∀ core, Names core text → ∀ octet ∈ octets (String.ofList core),
    octet = 9 ∨ 32 ≤ octet ∧ octet ≠ 127

theorem legal_iff {text : String} : Legal text ↔ Http.isHeaderValue (entry text) = true := by
  simp only [Legal, names_iff, forall_eq, Http.isHeaderValue, entry, List.all_eq_true,
    Http.isValueOctet, Bool.or_eq_true, Bool.and_eq_true, decide_eq_true_eq]

-- The octets of a text that stands for an asterisk are those of an asterisk.
theorem names_asterisk_iff {text : String} : Names ['*'] text ↔ entry text = octets "*" := by
  rw [names_iff]
  constructor
  · intro h
    rw [entry, ← h]
  · intro h
    have same : String.ofList (Text.trim text.toList) = "*" := Text.octets_injective h
    rw [← String.toList_ofList (l := Text.trim text.toList), same]
    rfl

/-! ## Lists -/

section

variable {entries : List String}

theorem all_isHeaderValue_iff :
    (entries.map entry).all Http.isHeaderValue = true ↔ ∀ s ∈ entries, Legal s := by
  simp only [List.all_eq_true, List.forall_mem_map, legal_iff]

theorem contains_asterisk_iff :
    (entries.map entry).contains (octets "*") = true ↔ ∃ s ∈ entries, Names ['*'] s := by
  simp only [List.contains_iff_mem, List.mem_map, names_asterisk_iff]

/-- A list is refused if an entry is not legal, whatever else stands on it. -/
theorem ofList?_eq_badValue_iff :
    ofList? entries = .error .badValue ↔ ∃ s ∈ entries, ¬ Legal s := by
  unfold ofList?
  by_cases legal : (entries.map entry).all Http.isHeaderValue = true
  · have all := all_isHeaderValue_iff.1 legal
    refine iff_of_false ?_ fun ⟨s, hs, h⟩ => h (all s hs)
    simp only [legal, Bool.not_true, Bool.false_eq_true, if_false]
    split <;> simp only [reduceCtorEq, not_false_eq_true, Except.error.injEq]
  · refine iff_of_true ?_ ?_
    · simp only [legal, Bool.not_false, if_true]
    · by_contra none
      push Not at none
      exact legal (all_isHeaderValue_iff.2 none)

/-- A list breaks the run off if it is legal and has an asterisk on it. -/
theorem ofList?_eq_wildcard_iff :
    ofList? entries = .error .wildcard ↔
      (∀ s ∈ entries, Legal s) ∧ ∃ s ∈ entries, Names ['*'] s := by
  rw [← all_isHeaderValue_iff, ← contains_asterisk_iff]
  unfold ofList?
  by_cases legal : (entries.map entry).all Http.isHeaderValue = true
  · by_cases asterisk : (entries.map entry).contains (octets "*") = true
    · simp only [legal, asterisk, Bool.not_true, Bool.false_eq_true, if_false, if_true, and_self]
    · simp only [legal, asterisk, Bool.not_true, Bool.false_eq_true, if_false, reduceCtorEq,
        and_false]
  · simp only [legal, Bool.not_false, if_true, Except.error.injEq, reduceCtorEq, false_and]

theorem exists_ofList?_iff :
    (∃ origins, ofList? entries = .ok origins) ↔
      (∀ s ∈ entries, Legal s) ∧ ∀ s ∈ entries, ¬ Names ['*'] s := by
  constructor
  · rintro ⟨origins, taken⟩
    refine ⟨fun s hs => ?_, fun s hs asterisk => ?_⟩
    · by_contra h
      have refused := ofList?_eq_badValue_iff.2 ⟨s, hs, h⟩
      rw [taken] at refused
      exact absurd refused (by simp only [reduceCtorEq, not_false_eq_true])
    · have unlisted := (ofList?_eq_ok_iff.1 taken).2.2
      exact unlisted (List.mem_map.2 ⟨s, hs, names_asterisk_iff.1 asterisk⟩)
  · rintro ⟨legal, unlisted⟩
    refine ⟨⟨entries.map entry⟩, ofList?_eq_ok_iff.2 ⟨rfl, ?_, ?_⟩⟩
    · exact List.all_eq_true.1 (all_isHeaderValue_iff.2 legal)
    · intro listed
      rcases List.mem_map.1 listed with ⟨s, hs, same⟩
      exact unlisted s hs (names_asterisk_iff.2 same)

end

/-- What comes of any list of origins. It is admitted if every entry is legal and none
    stands for an asterisk, and then its origins are what its entries stand for, in their
    order. It is refused by an error if an entry is not legal. It breaks the run off if
    all entries are legal and one stands for an asterisk. -/
theorem admission_law (entries : List String) :
    ((∃ origins, ofList? entries = .ok origins) ↔
      (∀ s ∈ entries, Legal s) ∧ ∀ s ∈ entries, ¬ Names ['*'] s) ∧
    (∀ origins, ofList? entries = .ok origins →
      List.Forall₂ (fun s origin => ∃ core, Names core s ∧ origin = octets (String.ofList core))
        entries origins.allowed) ∧
    (ofList? entries = .error .badValue ↔ ∃ s ∈ entries, ¬ Legal s) ∧
    (ofList? entries = .error .wildcard ↔
      (∀ s ∈ entries, Legal s) ∧ ∃ s ∈ entries, Names ['*'] s) := by
  refine ⟨exists_ofList?_iff, fun origins taken => ?_, ofList?_eq_badValue_iff,
    ofList?_eq_wildcard_iff⟩
  rw [(ofList?_eq_ok_iff.1 taken).1, List.forall₂_map_right_iff, List.forall₂_same]
  intro s _
  exact ⟨Text.trim s.toList, names_iff.2 rfl, rfl⟩

-- Two entries with blanks around them, of which one is not ASCII.
theorem admission_law_padded :
    let entries := [" http://a ", "\u3000é\n"]
    let origins : Origins := ⟨[octets "http://a", octets "é"]⟩
    ofList? entries = .ok origins ∧ (∀ s ∈ entries, Legal s) ∧
      List.Forall₂ (fun s origin => ∃ core, Names core s ∧ origin = octets (String.ofList core))
        entries origins.allowed := by
  intro entries origins
  have taken : ofList? entries = .ok origins := by decide +kernel
  have law := admission_law entries
  exact ⟨taken, (law.1.1 ⟨origins, taken⟩).1, law.2.1 origins taken⟩

/-- An asterisk is given for the origins on the command line. The settings hold it and it
    is legal, and yet it is not admitted, nor is it refused by an error of the run. -/
theorem asterisk_aborts :
    let settings := { Settings.standard with origins := ["*"] }
    let outcomes : Outcomes := ⟨.ok (), .ok (), .ok (), .signal⟩
    Settings.readSettings (fun _ => none) ["--cors-origins", "*"] = .ok settings ∧
      (∀ s ∈ settings.origins, Legal s) ∧
      ¬ (∃ origins, ofList? settings.origins = .ok origins) ∧
      ofList? settings.origins = .error .wildcard ∧
      (launch settings outcomes).ending = .aborted OriginFault.wildcard.message := by
  intro settings outcomes
  have broken : ofList? settings.origins = .error .wildcard := by decide +kernel
  refine ⟨by rfl, (ofList?_eq_wildcard_iff.1 broken).1, ?_, broken, by decide +kernel⟩
  rintro ⟨origins, taken⟩
  rw [broken] at taken
  exact absurd taken (by simp only [reduceCtorEq, not_false_eq_true])

end Origins

end Rulebook
