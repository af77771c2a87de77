import TunnelLease.Proofs.Text.Trimming
import TunnelLease.Settings.Line

/-!
# Writing lines

Texts are the lines of a file if none of them holds a line end.  Whichever line end is put
between them, and whether or not one stands behind the last, the file has these lines
again, each with a line feed at most behind it.
-/

namespace TunnelLease

namespace Settings

/-- The ways a line can end. -/
inductive IsLineEnd : List Char → Prop where
  | feed : IsLineEnd ['\n']
  | carriageReturn : IsLineEnd ['\r']
  | both : IsLineEnd ['\r', '\n']

/-- A text without line ends. -/
@[mk_iff]
structure IsOneLine (text : List Char) : Prop where
  noReturn : '\r' ∉ text
  noFeed : '\n' ∉ text

instance (text : List Char) : Decidable (IsOneLine text) :=
  decidable_of_iff' _ (isOneLine_iff text)

theorem IsOneLine.append {front back : List Char} (isFront : IsOneLine front)
    (isBack : IsOneLine back) : IsOneLine (front ++ back) where
  noReturn := by simp [isFront.noReturn, isBack.noReturn]
  noFeed := by simp [isFront.noFeed, isBack.noFeed]

/-- A file of some lines with a line end between any two, and perhaps behind the last. -/
def fileText (lineEnd : List Char) (closed : Bool) : List (List Char) → List Char
  | [] => []
  | [line] => line ++ if closed then lineEnd else []
  | line :: next :: later => line ++ lineEnd ++ fileText lineEnd closed (next :: later)

/-- A line as it is read: what is on the line, and nothing but blanks behind it. -/
def IsReadAs (text line : List Char) : Prop :=
  ∃ blanks, Text.IsBlankText blanks ∧ line = text ++ blanks

theorem unifyLineEnds_append {text : List Char} (noReturn : '\r' ∉ text) (rest : List Char) :
    unifyLineEnds (text ++ rest) = text ++ unifyLineEnds rest := by
  induction text with
  | nil => rfl
  | cons c text ih =>
      have other := (List.ne_of_not_mem_cons noReturn).symm
      rw [List.cons_append, unifyLineEnds, ih (List.not_mem_of_not_mem_cons noReturn),
        if_neg other]
      · rfl
      · rintro _ rfl
        exact fun _ => other rfl

/-- Every line end is read as a line feed, unless what follows completes it. -/
theorem unifyLineEnds_lineEnd {lineEnd rest : List Char} (ends : IsLineEnd lineEnd)
    (other : rest.head? ≠ some '\n') :
    unifyLineEnds (lineEnd ++ rest) = '\n' :: unifyLineEnds rest := by
  cases ends with
  | feed => rfl
  | both => rfl
  | carriageReturn =>
      rw [List.singleton_append, unifyLineEnds, if_pos rfl]
      rintro following - rfl
      exact other rfl

theorem completeLines_of_not_mem {text : List Char} (noFeed : '\n' ∉ text) :
    completeLines text = ([], text) := by
  induction text with
  | nil => rfl
  | cons c text ih =>
      have other := (List.ne_of_not_mem_cons noFeed).symm
      rw [completeLines, if_neg other, ih (List.not_mem_of_not_mem_cons noFeed)]

theorem completeLines_append {text : List Char} (noFeed : '\n' ∉ text) (rest : List Char) :
    completeLines (text ++ '\n' :: rest) =
      ((text ++ ['\n']) :: (completeLines rest).1, (completeLines rest).2) := by
  induction text with
  | nil => rfl
  | cons c text ih =>
      have other := (List.ne_of_not_mem_cons noFeed).symm
      rw [List.cons_append, completeLines, if_neg other,
        ih (List.not_mem_of_not_mem_cons noFeed)]
      rfl

theorem allLines_of_isOneLine {text : List Char} (single : IsOneLine text)
    (occupied : text ≠ []) : allLines text = [text] := by
  have unified := unifyLineEnds_append single.noReturn []
  rw [List.append_nil, unifyLineEnds, List.append_nil] at unified
  simp [allLines, unified, completeLines_of_not_mem single.noFeed, occupied]

theorem allLines_append {text lineEnd rest : List Char} (single : IsOneLine text)
    (ends : IsLineEnd lineEnd) (other : rest.head? ≠ some '\n') :
    allLines (text ++ (lineEnd ++ rest)) = (text ++ ['\n']) :: allLines rest := by
  simp only [allLines, unifyLineEnds_append single.noReturn, unifyLineEnds_lineEnd ends other,
    completeLines_append single.noFeed, List.cons_append]

theorem isReadAs_closed (text : List Char) : IsReadAs text (text ++ ['\n']) :=
  ⟨['\n'], by simp [Text.IsBlankText]; decide, rfl⟩

theorem isReadAs_open (text : List Char) : IsReadAs text text :=
  ⟨[], by simp [Text.IsBlankText], (List.append_nil text).symm⟩

/-- A file does not start with a line feed if its first line has content. -/
theorem fileText_head {line : List Char} (single : IsOneLine line ∧ line ≠ [])
    (lineEnd : List Char) (closed : Bool) (lines : List (List Char)) :
    (fileText lineEnd closed (line :: lines)).head? ≠ some '\n' := by
  obtain ⟨first, text, rfl⟩ := List.exists_cons_of_ne_nil single.2
  have other := (List.ne_of_not_mem_cons single.1.noFeed).symm
  cases lines <;> simpa [fileText] using other

/-- The lines of a written file are the ones that were written. -/
theorem allLines_fileText {lineEnd : List Char} (ends : IsLineEnd lineEnd) (closed : Bool)
    {lines : List (List Char)} (single : ∀ line ∈ lines, IsOneLine line ∧ line ≠ []) :
    List.Forall₂ IsReadAs lines (allLines (fileText lineEnd closed lines)) := by
  induction lines with
  | nil => exact .nil
  | cons line lines ih =>
      obtain ⟨⟨isLine, occupied⟩, later⟩ := List.forall_mem_cons.mp single
      cases lines with
      | nil =>
          cases closed with
          | false =>
              have read : allLines (fileText lineEnd false [line]) = [line] := by
                simpa [fileText] using allLines_of_isOneLine isLine occupied
              rw [read]
              exact .cons (isReadAs_open line) .nil
          | true =>
              have read : allLines (fileText lineEnd true [line]) = [line ++ ['\n']] := by
                have read := allLines_append isLine ends (by simp : [].head? ≠ some '\n')
                rwa [List.append_nil] at read
              rw [read]
              exact .cons (isReadAs_closed line) .nil
      | cons next lines =>
          have other := fileText_head (later next List.mem_cons_self) lineEnd closed lines
          rw [fileText, List.append_assoc, allLines_append isLine ends other]
          exact .cons (isReadAs_closed line) (ih later)

end Settings

end TunnelLease
