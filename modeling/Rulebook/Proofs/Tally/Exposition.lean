import Mathlib.Data.List.Count
import Rulebook.Tally

/-!
# Counts as They Are Collected

Whoever collects the counts reads their text line by line. What stands in front of
the first blank of a line is its label, what stands behind it a number. Collecting
can go wrong in two ways that no single line shows: two lines may carry one label,
and a number may stand behind the label of another count.

Neither happens. Numbers hold no line ends, so the lines are those that were
written, and labels hold no blanks, so they are the same whatever has been counted;
that they differ can then be seen once and for all. Hence each label stands on one
line, and behind it stands the count that it names.

## Main definitions

* `linesOf`, `label`: How the text is taken apart.
* `Says`: A text says a number under a label, and says it once.
* `labelOf`: The label of a count.
* `OneWord`: A text without blanks and line ends.
* `labels`, `numbered`: The labels of all lines, and those with a number.
* `Shown`: A text shows all counts.

## Theorems

* `linesOf_exposition`: The lines of the text are those that were written.
* `labels_lines`: Their labels do not depend on the counts.
* `count_labels`: A label with a number is there once.
* `says_of_mem`: What stands behind a label is what the text says under it.
* `shown_exposition`: Behind each label stands the count that it names.
-/

namespace Rulebook

namespace Tally

/-- The lines of a text. -/
def linesOf (text : String) : List (List Char) :=
  text.toList.splitOn '\n'

/-- The label of a line is what stands in front of its first blank. -/
def label (line : List Char) : List Char :=
  line.takeWhile (· ≠ ' ')

/-- A text says a number under a label, and says it once. -/
def Says (text name : String) (n : Nat) : Prop :=
  (linesOf text).filter (label · = name.toList) = [name.toList ++ ' ' :: (toString n).toList]

/-- The label of a count: its name, and a key with a value between braces. -/
def labelOf (name key value : String) : String :=
  name ++ "\x7b" ++ key ++ "=\"" ++ value ++ "\"\x7d"

/-! ## Line ends -/

-- A number does not end a line.
theorem newline_notMem_toString (n : Nat) : '\n' ∉ (toString n).toList := by
  intro h
  have digits : (toString n).toList = Nat.toDigits 10 n := Nat.toList_repr
  rw [digits] at h
  exact absurd (Nat.isDigit_of_mem_toDigits (by decide) (by decide) h) (by decide)

-- A text of lines, each of which is ended, has these lines and nothing behind them.
theorem splitOn_ended {lines : List (List Char)} (h : ∀ line ∈ lines, '\n' ∉ line) :
    (lines.flatMap (· ++ ['\n'])).splitOn '\n' = lines ++ [[]] := by
  have joined : lines.flatMap (· ++ ['\n']) = ['\n'].intercalate (lines ++ [[]]) := by
    induction lines with
    | nil => rfl
    | cons line rest ih =>
      rw [List.flatMap_cons, List.cons_append,
        List.intercalate_cons_of_ne_nil (List.concat_ne_nil [] rest),
        ih fun line hline => h line (List.mem_cons_of_mem _ hline)]
  rw [joined]
  refine List.splitOn_intercalate '\n' ?_ (List.concat_ne_nil [] lines)
  intro line hline
  rcases List.mem_append.1 hline with hline | hline
  · exact h line hline
  · rw [List.mem_singleton.1 hline]
    exact List.not_mem_nil

theorem toList_ended (lines : List String) :
    ("".intercalate (lines.map (· ++ "\n"))).toList =
      (lines.map String.toList).flatMap (· ++ ['\n']) := by
  have joined : ∀ ls : List (List Char), ([] : List Char).intercalate ls = ls.flatten := by
    intro ls
    induction ls with
    | nil => rfl
    | cons l rest ih =>
      cases rest with
      | nil => rfl
      | cons m rest => rw [List.intercalate_cons_cons, ih, List.append_nil, ← List.flatten_cons]
  have empty : "".toList = [] := rfl
  have newline : "\n".toList = ['\n'] := rfl
  rw [String.toList_intercalate, empty, joined, List.map_map, List.flatMap_map, List.flatMap_def]
  simp only [Function.comp_def, String.toList_append, newline]

/-! ## Words -/

/-- Whether a text is one word: it holds no blanks and does not end a line. -/
def OneWord (s : String) : Prop :=
  ' ' ∉ s.toList ∧ '\n' ∉ s.toList

instance (s : String) : Decidable (OneWord s) :=
  inferInstanceAs (Decidable (_ ∧ _))

theorem notMem_append {c : Char} {s t : String} (hs : c ∉ s.toList) (ht : c ∉ t.toList) :
    c ∉ (s ++ t).toList := by
  rw [String.toList_append, List.mem_append, not_or]
  exact ⟨hs, ht⟩

theorem OneWord.append {s t : String} (hs : OneWord s) (ht : OneWord t) : OneWord (s ++ t) :=
  ⟨notMem_append hs.1 ht.1, notMem_append hs.2 ht.2⟩

theorem oneWord_labelOf {name key value : String} (hname : OneWord name) (hkey : OneWord key)
    (hvalue : OneWord value) : OneWord (labelOf name key value) :=
  ((((hname.append (by decide)).append hkey).append (by decide)).append hvalue).append (by decide)

theorem oneWord_uptime : OneWord "expense_rules_uptime_seconds" := by
  decide +kernel

theorem oneWord_success (operation : Operation) :
    OneWord (labelOf "expense_rules_operations_total" "op" operation.label) := by
  refine oneWord_labelOf (by decide +kernel) (by decide) ?_
  cases operation <;> decide

theorem oneWord_problem {kind : String} (h : OneWord kind) :
    OneWord (labelOf "expense_rules_errors_total" "kind" kind) :=
  oneWord_labelOf (by decide +kernel) (by decide) h

/-! ## Kinds of lines -/

theorem toList_uptime (uptime : Nat) :
    ("expense_rules_uptime_seconds " ++ toString uptime).toList =
      "expense_rules_uptime_seconds".toList ++ ' ' :: (toString uptime).toList := by
  have seconds : "expense_rules_uptime_seconds ".toList =
      "expense_rules_uptime_seconds".toList ++ [' '] := by decide +kernel
  rw [String.toList_append, seconds, List.append_assoc, List.singleton_append]

theorem toList_labelled (name key value : String) (count : UInt64) :
    (labelled name key value count).toList =
      (labelOf name key value).toList ++ ' ' :: (toString count.toNat).toList := by
  have marks : "\"\x7d ".toList = "\"\x7d".toList ++ [' '] := rfl
  simp only [labelled, labelOf, String.toList_append, marks, List.append_assoc,
    List.singleton_append]

theorem newline_notMem_counted {name : List Char} (h : '\n' ∉ name) (n : Nat) :
    '\n' ∉ name ++ ' ' :: (toString n).toList := by
  rw [List.mem_append, List.mem_cons, not_or, not_or]
  exact ⟨h, by decide, newline_notMem_toString n⟩

theorem newline_notMem_heading {name help : String} (hname : '\n' ∉ name.toList)
    (hhelp : '\n' ∉ help.toList) : ∀ line ∈ heading name help, '\n' ∉ line.toList := by
  intro line hline
  simp only [heading, List.mem_cons, List.not_mem_nil, or_false] at hline
  rcases hline with rfl | rfl
  · exact notMem_append (notMem_append (notMem_append (by decide) hname) (by decide)) hhelp
  · exact notMem_append (notMem_append (by decide) hname) (by decide)

theorem newline_notMem_lines (t : Tally) (uptime : Nat) :
    ∀ line ∈ t.lines uptime, '\n' ∉ line.toList := by
  have operation : ∀ o : Operation,
      '\n' ∉ (labelled "expense_rules_operations_total" "op" o.label (t.successes o)).toList := by
    intro o
    rw [toList_labelled]
    exact newline_notMem_counted (oneWord_success o).2 _
  have error : ∀ (kind : String) (count : UInt64), OneWord kind →
      '\n' ∉ (labelled "expense_rules_errors_total" "kind" kind count).toList := by
    intro kind count h
    rw [toList_labelled]
    exact newline_notMem_counted (oneWord_problem h).2 _
  intro line hline
  simp only [lines, List.mem_append, List.mem_cons, List.not_mem_nil, or_false] at hline
  rcases hline with ((((hline | rfl | rfl) | hline) | rfl | rfl | rfl | rfl | rfl | rfl) | hline) |
    rfl | rfl | rfl
  · exact newline_notMem_heading oneWord_uptime.2 (by decide +kernel) line hline
  · exact notMem_append (by decide +kernel) (newline_notMem_toString uptime)
  · decide
  · exact newline_notMem_heading (by decide +kernel) (by decide +kernel) line hline
  · exact operation .list
  · exact operation .create
  · exact operation .get
  · exact operation .update
  · exact operation .delete
  · decide
  · exact newline_notMem_heading (by decide +kernel) (by decide +kernel) line hline
  · exact error "validation" t.invalid (by decide)
  · exact error "not_found" t.notFound (by decide)
  · exact error "store" t.store (by decide)

/-- The lines of the text are those that were written. -/
theorem linesOf_exposition (t : Tally) (uptime : Nat) :
    linesOf (t.exposition uptime) = (t.lines uptime).map String.toList ++ [[]] := by
  rw [linesOf, exposition, toList_ended, splitOn_ended]
  intro line hline
  rcases List.mem_map.1 hline with ⟨written, hwritten, rfl⟩
  exact newline_notMem_lines t uptime written hwritten

/-! ## Labels -/

theorem label_cons {name : List Char} (h : ' ' ∉ name) (rest : List Char) :
    label (name ++ ' ' :: rest) = name := by
  have plain : ∀ c ∈ name, decide (c ≠ ' ') = true := by
    intro c hc
    exact decide_eq_true fun hblank => h (hblank ▸ hc)
  rw [label, List.takeWhile_append_of_pos plain, List.takeWhile_cons_of_neg (by decide),
    List.append_nil]

theorem label_labelled {name key value : String} (h : OneWord (labelOf name key value))
    (count : UInt64) :
    label (labelled name key value count).toList = (labelOf name key value).toList := by
  rw [toList_labelled, label_cons h.1]

theorem labels_heading (name help : String) :
    (heading name help).map (label ·.toList) = ["#", "#"].map String.toList := by
  have help' : "# HELP ".toList = "#".toList ++ ' ' :: "HELP ".toList := rfl
  have type : "# TYPE ".toList = "#".toList ++ ' ' :: "TYPE ".toList := rfl
  simp only [heading, List.map_cons, List.map_nil, String.toList_append, help', type,
    List.append_assoc, List.cons_append]
  rw [label_cons (by decide), label_cons (by decide)]

/-- The labels of the lines. -/
def labels : List String :=
  let operation (o : Operation) : String :=
    labelOf "expense_rules_operations_total" "op" o.label
  let error (kind : String) : String := labelOf "expense_rules_errors_total" "kind" kind
  ["#", "#"] ++ ["expense_rules_uptime_seconds", ""] ++ ["#", "#"] ++
  [operation .list, operation .create, operation .get, operation .update, operation .delete, ""] ++
  ["#", "#"] ++ [error "validation", error "not_found", error "store"]

/-- The labels with which a number stands. -/
def numbered : List String :=
  let operation (o : Operation) : String :=
    labelOf "expense_rules_operations_total" "op" o.label
  let error (kind : String) : String := labelOf "expense_rules_errors_total" "kind" kind
  ["expense_rules_uptime_seconds", operation .list, operation .create, operation .get,
    operation .update, operation .delete, error "validation", error "not_found", error "store"]

-- Each of them is there once.
theorem count_labels : ∀ name ∈ numbered, labels.count name = 1 := by
  decide +kernel

/-- The labels of the lines do not depend on the counts. -/
theorem labels_lines (t : Tally) (uptime : Nat) :
    (t.lines uptime).map (label ·.toList) = labels.map String.toList := by
  have up : label ("expense_rules_uptime_seconds " ++ toString uptime).toList =
      "expense_rules_uptime_seconds".toList := by
    rw [toList_uptime, label_cons oneWord_uptime.1]
  have blank : label "".toList = "".toList := rfl
  have problem : ∀ (kind : String) (count : UInt64), OneWord kind →
      label (labelled "expense_rules_errors_total" "kind" kind count).toList =
        (labelOf "expense_rules_errors_total" "kind" kind).toList :=
    fun _ count h => label_labelled (oneWord_problem h) count
  simp only [lines, labels, List.map_append, labels_heading, List.map_cons, List.map_nil, up, blank,
    label_labelled (oneWord_success _)]
  rw [problem "validation" _ (by decide), problem "not_found" _ (by decide),
    problem "store" _ (by decide)]

/-- What stands behind a label that is there once is what the text says under it. -/
theorem says_of_mem {t : Tally} {uptime n : Nat} {name line : String}
    (hline : line ∈ t.lines uptime)
    (hwritten : line.toList = name.toList ++ ' ' :: (toString n).toList)
    (hword : ' ' ∉ name.toList) (hone : labels.count name = 1) :
    Says (t.exposition uptime) name n := by
  -- One line has the label, because one of all labels is it.
  have count :
      (((t.lines uptime).map String.toList).filter (label · = name.toList)).length = 1 := by
    rw [← List.countP_eq_length_filter, List.countP_map, ← hone,
      ← List.count_map_of_injective labels String.toList (fun _ _ => String.toList_inj.1) name,
      ← labels_lines t uptime, List.count, List.countP_map]
    refine List.countP_congr fun line _ => ?_
    simp only [Function.comp_apply, decide_eq_true_eq, beq_iff_eq]
  -- What follows the last line has no label.
  have tail : ([[]] : List (List Char)).filter (label · = name.toList) = [] := by
    have visible : name ≠ "" := by
      rintro rfl
      exact absurd hone (by decide +kernel)
    exact List.filter_cons_of_neg fun h => visible (String.toList_inj.1 (of_decide_eq_true h).symm)
  rw [Says, linesOf_exposition, List.filter_append, tail, List.append_nil]
  rcases List.length_eq_one_iff.1 count with ⟨only, honly⟩
  have found : line.toList ∈ ((t.lines uptime).map String.toList).filter (label · = name.toList) :=
    List.mem_filter.2 ⟨List.mem_map_of_mem hline,
      decide_eq_true (by rw [hwritten, label_cons hword])⟩
  rw [honly, List.mem_singleton] at found
  rw [honly, ← hwritten, found]

/-- The seconds that the service has been up stand behind their label. -/
theorem says_uptime (t : Tally) (uptime : Nat) :
    Says (t.exposition uptime) "expense_rules_uptime_seconds" uptime := by
  have there : "expense_rules_uptime_seconds " ++ toString uptime ∈ t.lines uptime := by
    simp only [lines, List.mem_append, List.mem_cons, true_or, or_true]
  exact says_of_mem there (toList_uptime uptime) oneWord_uptime.1
    (count_labels _ List.mem_cons_self)

/-- The successes of an operation stand behind its label. -/
theorem says_successes (t : Tally) (uptime : Nat) (operation : Operation) :
    Says (t.exposition uptime)
      (labelOf "expense_rules_operations_total" "op" operation.label)
      (t.successes operation).toNat := by
  refine says_of_mem ?_ (toList_labelled _ _ _ _) (oneWord_success operation).1
    (count_labels _ ?_)
  · cases operation <;> simp only [lines, List.mem_append, List.mem_cons, true_or, or_true]
  · cases operation <;> simp only [numbered, List.mem_cons, true_or, or_true]

theorem says_problem {t : Tally} {uptime : Nat} {kind : String} {count : UInt64}
    (hline : labelled "expense_rules_errors_total" "kind" kind count ∈ t.lines uptime)
    (hkind : OneWord kind)
    (hlabel : labelOf "expense_rules_errors_total" "kind" kind ∈ numbered) :
    Says (t.exposition uptime) (labelOf "expense_rules_errors_total" "kind" kind) count.toNat :=
  says_of_mem hline (toList_labelled _ _ _ _) (oneWord_problem hkind).1 (count_labels _ hlabel)

/-- The refused payloads stand behind their label. -/
theorem says_invalid (t : Tally) (uptime : Nat) :
    Says (t.exposition uptime) (labelOf "expense_rules_errors_total" "kind" "validation")
      t.invalid.toNat := by
  refine says_problem ?_ (by decide) ?_
  · simp only [lines, List.mem_append, List.mem_cons, true_or, or_true]
  · simp only [numbered, List.mem_cons, true_or, or_true]

/-- The rules that were not found stand behind their label. -/
theorem says_notFound (t : Tally) (uptime : Nat) :
    Says (t.exposition uptime) (labelOf "expense_rules_errors_total" "kind" "not_found")
      t.notFound.toNat := by
  refine says_problem ?_ (by decide) ?_
  · simp only [lines, List.mem_append, List.mem_cons, true_or, or_true]
  · simp only [numbered, List.mem_cons, true_or, or_true]

/-- The failures of the store stand behind their label. -/
theorem says_store (t : Tally) (uptime : Nat) :
    Says (t.exposition uptime) (labelOf "expense_rules_errors_total" "kind" "store")
      t.store.toNat := by
  refine says_problem ?_ (by decide) ?_
  · simp only [lines, List.mem_append, List.mem_cons, true_or, or_true]
  · simp only [numbered, List.mem_cons, true_or, or_true]

/-- A text shows counts: each of them stands behind its own label, and on one line
    only, and so do the seconds that the service has been up. -/
structure Shown (t : Tally) (uptime : Nat) (text : String) : Prop where
  uptime : Says text "expense_rules_uptime_seconds" uptime
  listed : Says text (labelOf "expense_rules_operations_total" "op" "list")
    (t.successes .list).toNat
  created : Says text (labelOf "expense_rules_operations_total" "op" "create")
    (t.successes .create).toNat
  fetched : Says text (labelOf "expense_rules_operations_total" "op" "get")
    (t.successes .get).toNat
  updated : Says text (labelOf "expense_rules_operations_total" "op" "update")
    (t.successes .update).toNat
  deleted : Says text (labelOf "expense_rules_operations_total" "op" "delete")
    (t.successes .delete).toNat
  invalid : Says text (labelOf "expense_rules_errors_total" "kind" "validation") t.invalid.toNat
  notFound : Says text (labelOf "expense_rules_errors_total" "kind" "not_found") t.notFound.toNat
  store : Says text (labelOf "expense_rules_errors_total" "kind" "store") t.store.toNat

/-- The text that is written of counts shows them. -/
theorem shown_exposition (t : Tally) (uptime : Nat) : Shown t uptime (t.exposition uptime) where
  uptime := says_uptime t uptime
  listed := says_successes t uptime .list
  created := says_successes t uptime .create
  fetched := says_successes t uptime .get
  updated := says_successes t uptime .update
  deleted := says_successes t uptime .delete
  invalid := says_invalid t uptime
  notFound := says_notFound t uptime
  store := says_store t uptime

end Tally
end Rulebook
