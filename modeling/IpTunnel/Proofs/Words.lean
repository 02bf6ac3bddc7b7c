import IpTunnel.Text.Blank
import IpTunnel.Text.Lines
import Mathlib.Data.List.DropRight

namespace IpTunnel.Text

def words (text : List Char) : List (List Char) := (text.splitOnP isBlank).filter (! ·.isEmpty)

def trim (text : List Char) : List Char := (text.dropWhile isBlank).rdropWhile isBlank

@[simp]
theorem words_nil : words [] = [] := rfl

theorem words_blank {blank : Char} (isBlank : isBlank blank = true) (front back : List Char) :
    words (front ++ blank :: back) = words front ++ words back := by
  rw [words, List.splitOnP_append_cons front back isBlank, List.filter_append]
  rfl

theorem words_cons {blank : Char} (isBlank : isBlank blank = true) (text : List Char) :
    words (blank :: text) = words text := words_blank isBlank [] text

theorem words_snoc {blank : Char} (isBlank : isBlank blank = true) (text : List Char) :
    words (text ++ [blank]) = words text := by
  rw [words_blank isBlank, words_nil, List.append_nil]

theorem words_single {word : List Char} (plain : ∀ char ∈ word, isBlank char = false) :
    words word = if word.isEmpty then [] else [word] := by
  rw [words, List.splitOnP_eq_singleton plain]
  cases word <;> rfl

-- The word that is held back has been read already.
theorem fieldsFrom_eq {held : List Char} (plain : ∀ char ∈ held, isBlank char = false) (text : List Char) :
    fieldsFrom held text = words (held.reverse ++ text) := by
  induction text generalizing held with
  | nil =>
    have single := @words_single held.reverse (by simpa using plain)
    rw [List.append_nil, single, List.isEmpty_reverse]
    rfl
  | cons char rest ih =>
    rw [fieldsFrom]
    cases sort : isBlank char with
    | true =>
      have single := @words_single held.reverse (by simpa using plain)
      have further : fieldsFrom [] rest = words rest := ih (List.forall_mem_nil _)
      rw [words_blank sort, single, List.isEmpty_reverse, further]
      cases held <;> rfl
    | false =>
      have longer : ∀ other ∈ char :: held, isBlank other = false := by
        intro other member
        rcases List.mem_cons.mp member with rfl | before
        · exact sort
        · exact plain other before
      have further := ih longer
      rw [List.reverse_cons, List.append_assoc] at further
      exact further

theorem fields_eq (text : List Char) : fields text = words text := fieldsFrom_eq (List.forall_mem_nil _) text

theorem words_dropWhile (text : List Char) : words (text.dropWhile isBlank) = words text := by
  induction text with
  | nil => rfl
  | cons char rest ih =>
    cases sort : isBlank char with
    | true => rw [List.dropWhile_cons_of_pos sort, ih, words_cons sort]
    | false => rw [List.dropWhile_cons_of_neg (by simp [sort])]

theorem words_rdropWhile (text : List Char) : words (text.rdropWhile isBlank) = words text := by
  induction text using List.reverseRecOn with
  | nil => rfl
  | append_singleton front char ih =>
    cases sort : isBlank char with
    | true => rw [List.rdropWhile_concat_pos _ _ _ sort, ih, words_snoc sort]
    | false => rw [List.rdropWhile_concat_neg _ _ _ (by simp [sort])]

theorem words_trim (text : List Char) : words (trim text) = words text := by
  rw [trim, words_rdropWhile, words_dropWhile]

theorem fieldsFrom_held {held : List Char} (kept : held ≠ []) (text : List Char) : fieldsFrom held text ≠ [] := by
  induction text generalizing held with
  | nil => simp [fieldsFrom, kept]
  | cons char rest ih =>
    rw [fieldsFrom]
    split
    · simp [kept]
    · exact ih (List.cons_ne_nil char held)

theorem blank_of_words {text : List Char} (wordless : words text = []) : ∀ char ∈ text, isBlank char = true := by
  induction text with
  | nil => exact List.forall_mem_nil _
  | cons char rest ih =>
    cases sort : isBlank char with
    | true =>
      rw [words_cons sort] at wordless
      exact List.forall_mem_cons.mpr ⟨sort, ih wordless⟩
    | false =>
      have plain : ∀ other ∈ [char], isBlank other = false := List.forall_mem_singleton.mpr sort
      have worded := fieldsFrom_held (List.cons_ne_nil char []) rest
      rw [fieldsFrom_eq plain] at worded
      exact absurd wordless worded

theorem trim_eq_nil {text : List Char} : trim text = [] ↔ words text = [] := by
  constructor
  · intro empty
    rw [← words_trim, empty, words_nil]
  · intro wordless
    have blanks : text.dropWhile isBlank = [] := List.dropWhile_eq_nil_iff.mpr (blank_of_words wordless)
    rw [trim, blanks]
    rfl

theorem trim_snoc {blank : Char} (sort : isBlank blank = true) (text : List Char) :
    trim (text ++ [blank]) = trim text := by
  rw [trim, trim, List.dropWhile_append]
  split
  · rename_i empty
    rw [List.isEmpty_iff.mp empty, List.dropWhile_cons_of_pos sort]
    rfl
  · exact List.rdropWhile_concat_pos _ _ _ sort

-- No word goes across the place between the two: a blank can be put there.
def Gap (front back : List Char) : Prop :=
  (∀ char ∈ front.getLast?, isBlank char = true) ∨ ∀ char ∈ back.head?, isBlank char = true

theorem words_gap {front back : List Char} (gap : Gap front back) :
    words (front ++ back) = words front ++ words back := by
  rcases gap with last | first
  · rcases List.eq_nil_or_concat front with rfl | ⟨start, char, rfl⟩
    · rfl
    · rw [List.concat_eq_append] at last ⊢
      have sort : isBlank char = true := last char (by simp)
      rw [List.append_assoc, List.singleton_append, words_blank sort, words_snoc sort]
  · cases back with
    | nil => rw [List.append_nil, words_nil, List.append_nil]
    | cons char rest =>
      have sort : isBlank char = true := first char rfl
      rw [words_blank sort, words_cons sort]

theorem words_widened {front back : List Char} {blank : Char} (sort : isBlank blank = true) (gap : Gap front back) :
    words (front ++ blank :: back) = words (front ++ back) := by
  rw [words_blank sort, words_gap gap]

end IpTunnel.Text
