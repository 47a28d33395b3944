/-!
# Blank characters

The characters that count as white space in any script, and the trimming of texts, which removes
exactly the white space around them (`trimmed_iff`).
-/

namespace MetricAlgebra.Text

/-- The code points of white space, as ranges with both ends included. -/
def blankRanges : List (Nat × Nat) :=
  [(0x09, 0x0D), (0x20, 0x20), (0x85, 0x85), (0xA0, 0xA0), (0x1680, 0x1680), (0x2000, 0x200A),
   (0x2028, 0x2029), (0x202F, 0x202F), (0x205F, 0x205F), (0x3000, 0x3000)]

/-- Whether a character is white space. -/
def isBlank (c : Char) : Bool :=
  blankRanges.any fun range => range.1 ≤ c.toNat && c.toNat ≤ range.2

/-- A digit is not blank. -/
theorem isBlank_of_isDigit {c : Char} (h : c.isDigit = true) : isBlank c = false := by
  simp only [Char.isDigit, Bool.and_eq_true, decide_eq_true_eq] at h
  have hlow : 48 ≤ c.toNat := UInt32.le_iff_toNat_le.1 h.1
  have hhigh : c.toNat ≤ 57 := UInt32.le_iff_toNat_le.1 h.2
  clear h
  simp only [isBlank, blankRanges, List.any_cons, List.any_nil, Bool.or_eq_false_iff,
    Bool.and_eq_false_iff, decide_eq_false_iff_not, and_true]
  omega

/-- Removes white space at the start. -/
def trimStart (text : List Char) : List Char :=
  text.dropWhile isBlank

/-- Removes white space at both ends. -/
def trimChars (text : List Char) : List Char :=
  (trimStart (trimStart text).reverse).reverse

/-- Removes white space at both ends. -/
def trim (text : String) : String :=
  String.ofList (trimChars text.toList)

/-- What is left of a text without the white space around it: it neither starts nor ends with a
blank character. -/
structure Trimmed (text t : List Char) : Prop where
  /-- The rest of the text is white space on both sides. -/
  around : ∃ before after, text = before ++ t ++ after ∧
    (∀ c ∈ before, isBlank c = true) ∧ ∀ c ∈ after, isBlank c = true
  /-- The first character is not blank. -/
  head : ∀ c ∈ t.head?, isBlank c = false
  /-- The last character is not blank. -/
  last : ∀ c ∈ t.getLast?, isBlank c = false

/-- A text without blank characters has no white space around it. -/
theorem trimmed_self {t : List Char} (h : ∀ c ∈ t, isBlank c = false) : Trimmed t t :=
  ⟨⟨[], [], by simp, by simp, by simp⟩, fun c hc => h c (List.mem_of_mem_head? hc),
    fun c hc => h c (List.mem_of_mem_getLast? hc)⟩

/-- White space at the start is dropped. -/
theorem trimStart_append {before : List Char} (h : ∀ c ∈ before, isBlank c = true)
    (text : List Char) : trimStart (before ++ text) = trimStart text := by
  unfold trimStart
  rw [List.dropWhile_append_of_pos h]

/-- A text that does not start with a blank character is kept. -/
theorem trimStart_eq_self {text : List Char} (h : ∀ c ∈ text.head?, isBlank c = false) :
    trimStart text = text := by
  unfold trimStart
  cases text with
  | nil => rfl
  | cons c text => rw [List.dropWhile_cons_of_neg (by simp [h c rfl])]

/-- What is left does not start with a blank character. -/
theorem isBlank_head?_trimStart (text : List Char) :
    ∀ c ∈ (trimStart text).head?, isBlank c = false := by
  intro c hc
  have h := List.head?_dropWhile_not isBlank text
  unfold trimStart at hc
  rw [Option.mem_def.1 hc] at h
  simpa using h

/-- A text is white space and what is left of it. -/
theorem exists_append_trimStart (text : List Char) :
    ∃ before, text = before ++ trimStart text ∧ ∀ c ∈ before, isBlank c = true :=
  ⟨text.takeWhile isBlank, List.takeWhile_append_dropWhile.symm, fun _ hc =>
    List.all_eq_true.1 (List.all_takeWhile) _ hc⟩

/-- Trimming removes exactly the white space around a text. -/
theorem trimmed_iff {text t : List Char} : Trimmed text t ↔ t = trimChars text := by
  constructor
  · rintro ⟨⟨before, after, rfl, hbefore, hafter⟩, hhead, hlast⟩
    unfold trimChars
    rw [List.append_assoc, trimStart_append hbefore]
    cases t with
    | nil =>
      have hnil : trimStart after = [] := by
        have := trimStart_append hafter []
        rwa [List.append_nil] at this
      rw [List.nil_append, hnil]
      rfl
    | cons c t =>
      have hstart : trimStart (c :: t ++ after) = c :: t ++ after := trimStart_eq_self hhead
      have hstop : ∀ d ∈ (c :: t).reverse.head?, isBlank d = false := by
        rw [List.head?_reverse]
        exact hlast
      rw [hstart, List.reverse_append, trimStart_append (by simpa using hafter),
        trimStart_eq_self hstop, List.reverse_reverse]
  · rintro rfl
    obtain ⟨before, hbefore, hb⟩ := exists_append_trimStart text
    obtain ⟨after, hafter, ha⟩ := exists_append_trimStart (trimStart text).reverse
    have hmiddle : trimStart text = trimChars text ++ after.reverse := by
      rw [← List.reverse_reverse (trimStart text), hafter, List.reverse_append]
      rfl
    refine ⟨⟨before, after.reverse, ?_, hb, by simpa using ha⟩, ?_, ?_⟩
    · rw [List.append_assoc, ← hmiddle]
      exact hbefore
    · intro c hc
      refine isBlank_head?_trimStart text c ?_
      rw [hmiddle, List.head?_append, Option.mem_def.1 hc]
      rfl
    · intro c hc
      unfold trimChars at hc
      rw [List.getLast?_reverse] at hc
      exact isBlank_head?_trimStart _ c hc

end MetricAlgebra.Text
