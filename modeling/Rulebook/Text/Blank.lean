/-!
# Blank Characters

The characters that count as blank when a name is judged empty or a configured
origin is trimmed: the twenty-five characters with the White_Space property.

## Main definitions

* `isBlank`: Whether a character is blank.
* `trimStart`, `trim`: A text without the blanks at its start, or at both ends.
* `allBlank`: Whether a text holds nothing but blanks.

## Theorems

* `trim_eq_nil_iff`: Trimming leaves nothing exactly of a text of blanks.
* `trim_padded`: Blanks around a text do not count.
-/

namespace Rulebook
namespace Text

/-- Whether a character has the White_Space property. -/
def isBlank (c : Char) : Bool :=
  let n := c.toNat
  (9 ≤ n && n ≤ 13) || n == 0x20 || n == 0x85 || n == 0xA0 || n == 0x1680 ||
    (0x2000 ≤ n && n ≤ 0x200A) || n == 0x2028 || n == 0x2029 || n == 0x202F ||
    n == 0x205F || n == 0x3000

/-- A text without the blanks it starts with. -/
def trimStart (cs : List Char) : List Char :=
  cs.dropWhile isBlank

/-- A text without the blanks at its two ends. -/
def trim (cs : List Char) : List Char :=
  (trimStart (trimStart cs).reverse).reverse

/-- Whether a text holds nothing but blanks; the empty text does. -/
def allBlank (s : String) : Bool :=
  (trim s.toList).isEmpty

-- Trimming the start leaves nothing exactly of a text of blanks.
theorem trimStart_eq_nil_iff {cs : List Char} :
    trimStart cs = [] ↔ ∀ c ∈ cs, isBlank c = true := by
  induction cs with
  | nil => simp [trimStart]
  | cons c rest ih =>
    by_cases h : isBlank c = true
    · rw [List.forall_mem_cons, ← ih]
      simp [trimStart, h]
    · simp [trimStart, h]

-- What is left after trimming the start does not start with a blank.
theorem isBlank_head_trimStart {cs rest : List Char} {c : Char} (h : trimStart cs = c :: rest) :
    isBlank c = false := by
  induction cs with
  | nil => simp [trimStart] at h
  | cons d ds ih =>
    by_cases hd : isBlank d = true
    · exact ih (by simpa [trimStart, hd] using h)
    · simp only [trimStart, List.dropWhile_cons, hd] at h
      simp only [Bool.false_eq_true, ↓reduceIte, List.cons.injEq] at h
      simpa [h.1] using hd

/-- Trimming leaves nothing exactly of a text of blanks. -/
theorem trim_eq_nil_iff {cs : List Char} : trim cs = [] ↔ ∀ c ∈ cs, isBlank c = true := by
  constructor
  · intro h
    have h' : trimStart (trimStart cs).reverse = [] := by simpa [trim] using h
    rw [trimStart_eq_nil_iff] at h'
    match hs : trimStart cs with
    | [] => exact trimStart_eq_nil_iff.1 hs
    | c :: rest =>
      have hc := isBlank_head_trimStart hs
      have := h' c (by simp [hs])
      simp [hc] at this
  · intro h
    have hs : trimStart cs = [] := trimStart_eq_nil_iff.2 h
    unfold trim
    rw [hs]
    rfl

-- Blanks behind a text are left when its start is trimmed, unless nothing else is.
theorem trimStart_append_blank {cs after : List Char} (h : ∀ c ∈ after, isBlank c = true) :
    trimStart (cs ++ after) = if trimStart cs = [] then [] else trimStart cs ++ after := by
  have nothing : after.dropWhile isBlank = [] := trimStart_eq_nil_iff.2 h
  unfold trimStart
  rw [List.dropWhile_append, nothing]
  simp only [List.isEmpty_iff]

/-- Blanks around a text do not count when it is trimmed. -/
theorem trim_padded {before after : List Char} (hbefore : ∀ c ∈ before, isBlank c = true)
    (hafter : ∀ c ∈ after, isBlank c = true) (cs : List Char) :
    trim (before ++ cs ++ after) = trim cs := by
  have start : trimStart (before ++ (cs ++ after)) = trimStart (cs ++ after) :=
    List.dropWhile_append_of_pos hbefore
  unfold trim
  rw [List.append_assoc, start, trimStart_append_blank hafter]
  by_cases hcs : trimStart cs = []
  · rw [if_pos hcs, hcs]
  · -- What is left ends in the blanks, and they are dropped from that end.
    have reversed : ∀ c ∈ after.reverse, isBlank c = true :=
      fun c hc => hafter c (List.mem_reverse.1 hc)
    rw [if_neg hcs, List.reverse_append]
    congr 1
    exact List.dropWhile_append_of_pos reversed

-- A text is judged blank exactly when each of its characters is.
theorem allBlank_iff {s : String} : allBlank s = true ↔ ∀ c ∈ s.toList, isBlank c = true := by
  simp [allBlank, trim_eq_nil_iff]

end Text
end Rulebook
