import Mathlib.Data.List.Basic

/-!
Texts in which a mark stands before every special symbol, the mark being special itself, and
what is left of a text when each mark is taken away and the symbol behind it kept.
-/

namespace Escaping

variable {α : Type} [DecidableEq α]

def escape (mark : α) (special : α → Bool) (text : List α) : List α :=
  text.flatMap fun symbol => if special symbol then [mark, symbol] else [symbol]

def unescape (mark : α) : List α → List α
  | [] => []
  | [last] => if last = mark then [] else [last]
  | first :: second :: rest =>
      if first = mark then second :: unescape mark rest
      else first :: unescape mark (second :: rest)

variable {mark : α} {special : α → Bool}

omit [DecidableEq α] in
theorem escape_cons (symbol : α) (text : List α) : escape mark special (symbol :: text) =
    (if special symbol then [mark, symbol] else [symbol]) ++ escape mark special text :=
  List.flatMap_cons ..

theorem unescape_mark (symbol : α) (rest : List α) :
    unescape mark (mark :: symbol :: rest) = symbol :: unescape mark rest := by
  rw [unescape, if_pos rfl]

theorem unescape_plain {symbol : α} (plain : symbol ≠ mark) (rest : List α) :
    unescape mark (symbol :: rest) = symbol :: unescape mark rest := by
  cases rest with
  | nil => simp [unescape, plain]
  | cons second rest => rw [unescape, if_neg plain]

theorem unescape_escape_append (marked : special mark) (text rest : List α) :
    unescape mark (escape mark special text ++ rest) = text ++ unescape mark rest := by
  induction text with
  | nil => rfl
  | cons symbol text ih =>
      rw [escape_cons, List.append_assoc]
      by_cases isSpecial : special symbol
      · rw [if_pos isSpecial]
        simp only [List.cons_append, List.nil_append, unescape_mark, ih]
      · have plain : symbol ≠ mark := fun same => isSpecial (same ▸ marked)
        rw [if_neg isSpecial]
        simp only [List.cons_append, List.nil_append, unescape_plain plain, ih]

theorem unescape_sublist (mark : α) (text : List α) : (unescape mark text).Sublist text := by
  fun_induction unescape mark text with
  | case1 => exact List.Sublist.refl _
  | case2 => exact List.nil_sublist _
  | case3 => exact List.Sublist.refl _
  | case4 second rest ih => exact (ih.cons_cons second).cons mark
  | case5 first second rest plain ih => exact ih.cons_cons first

omit [DecidableEq α] in
/-- No symbol comes or goes but marks. -/
theorem mem_escape {symbol : α} {text : List α} (member : symbol ∈ escape mark special text) :
    symbol = mark ∨ symbol ∈ text := by
  obtain ⟨origin, inText, symbolIn⟩ := List.mem_flatMap.mp member
  split at symbolIn
  · rcases List.mem_cons.mp symbolIn with isMark | rest
    · exact .inl isMark
    · exact .inr (List.mem_singleton.mp rest ▸ inText)
  · exact .inr (List.mem_singleton.mp symbolIn ▸ inText)

end Escaping
