import RemoteBatch.Text.Lines

/-!
# Lines written back

A text that is cut into lines and written back keeps everything but two things: the
carriage return before a line feed is gone, and the last line is closed.  Where no
carriage return counts, lines are cut at line feeds alone, and a list of lines that
was written comes back unless one of them was two.

## Main definitions

* `unifyBreaks` — a text with line feeds for all of its line breaks.
* `closeLine` — a text with its last line closed.
* `closedLines` — what stands before each line feed of a text.

## Main results

* `unlines_lines` — **what lines written back are.**
* `unifyBreaks_eq_self_iff` — the texts that lose nothing.
* `length_closedLines_unlines_iff` — the lists of lines that come back.
-/

namespace RemoteBatch.Text

/-! ### Line breaks -/

/-- A text without the carriage returns that stand before line feeds. -/
def unifyBreaks : List Char → List Char
  | [] => []
  | '\r' :: '\n' :: cs => '\n' :: unifyBreaks cs
  | c :: cs => c :: unifyBreaks cs

/-- A text whose last line is closed by a line feed. -/
def closeLine : List Char → List Char
  | [] => []
  | [c] => if c = '\n' then [c] else [c, '\n']
  | c :: d :: cs => c :: closeLine (d :: cs)

@[simp] theorem unifyBreaks_nil : unifyBreaks [] = [] := rfl

@[simp] theorem unifyBreaks_break (cs : List Char) :
    unifyBreaks ('\r' :: '\n' :: cs) = '\n' :: unifyBreaks cs := by
  rw [unifyBreaks]

theorem unifyBreaks_cons {c : Char} {cs : List Char} (h : c ≠ '\r' ∨ cs.head? ≠ some '\n') :
    unifyBreaks (c :: cs) = c :: unifyBreaks cs := by
  rw [unifyBreaks]
  rintro rest rfl rfl
  rcases h with h | h
  · exact h rfl
  · exact h rfl

/-- Induction on a text where a carriage return and its line feed are one step. -/
theorem unifyBreaks_induction {P : List Char → Prop} (nil : P [])
    (pair : ∀ cs, P cs → P ('\r' :: '\n' :: cs))
    (cons : ∀ c cs, (c ≠ '\r' ∨ cs.head? ≠ some '\n') → P cs → P (c :: cs)) (cs : List Char) :
    P cs := by
  induction cs using unifyBreaks.induct with
  | case1 => exact nil
  | case2 cs ih => exact pair cs ih
  | case3 c cs h ih =>
    refine cons c cs ?_ ih
    by_cases hc : c = '\r'
    · right
      intro hhead
      obtain ⟨rest, rfl⟩ := List.head?_eq_some_iff.mp hhead
      exact h rest hc rfl
    · exact .inl hc

theorem unifyBreaks_sublist (cs : List Char) : (unifyBreaks cs).Sublist cs := by
  induction cs using unifyBreaks_induction with
  | nil => exact List.Sublist.refl []
  | pair cs ih =>
    rw [unifyBreaks_break]
    exact (ih.cons_cons '\n').cons '\r'
  | cons c cs h ih =>
    rw [unifyBreaks_cons h]
    exact ih.cons_cons c

/-- A text loses nothing exactly when no carriage return stands before a line feed. -/
theorem unifyBreaks_eq_self_iff {cs : List Char} :
    unifyBreaks cs = cs ↔ ¬ ['\r', '\n'] <:+: cs := by
  induction cs using unifyBreaks_induction with
  | nil =>
    refine iff_of_true rfl ?_
    intro h
    exact nomatch List.infix_nil.mp h
  | pair cs ih =>
    refine iff_of_false ?_ (fun h => h ⟨[], cs, rfl⟩)
    rw [unifyBreaks_break]
    intro h
    have hhead : '\n' = '\r' := (List.cons.inj h).1
    exact absurd hhead (by decide)
  | cons c cs h ih =>
    rw [unifyBreaks_cons h, List.cons_inj_right, ih, List.infix_cons_iff, not_or]
    refine (and_iff_right ?_).symm
    rintro ⟨rest, hrest⟩
    obtain ⟨rfl, rfl⟩ := List.cons.inj hrest
    rcases h with h | h
    · exact h rfl
    · exact h rfl

/-- Line breaks are unified part by part if none of them is cut. -/
theorem unifyBreaks_append {cs ds : List Char}
    (h : cs.getLast? ≠ some '\r' ∨ ds.head? ≠ some '\n') :
    unifyBreaks (cs ++ ds) = unifyBreaks cs ++ unifyBreaks ds := by
  induction cs using unifyBreaks_induction with
  | nil => rfl
  | pair cs ih =>
    have hcs : cs.getLast? ≠ some '\r' ∨ ds.head? ≠ some '\n' := by
      refine h.imp_left ?_
      intro hlast hcr
      rw [List.getLast?_cons_cons, List.getLast?_cons, hcr] at hlast
      exact hlast rfl
    rw [List.cons_append, List.cons_append, unifyBreaks_break, unifyBreaks_break, ih hcs,
      List.cons_append]
  | cons c cs hc ih =>
    cases cs with
    | nil =>
      have hcons : c ≠ '\r' ∨ ds.head? ≠ some '\n' := by
        refine h.imp_left ?_
        intro hlast hcr
        rw [hcr] at hlast
        exact hlast rfl
      rw [List.singleton_append, unifyBreaks_cons hcons, unifyBreaks_cons hc]
      rfl
    | cons d cs =>
      rw [List.getLast?_cons_cons] at h
      rw [List.cons_append, unifyBreaks_cons hc, unifyBreaks_cons (by exact hc), ih h]
      rfl

theorem unifyBreaks_eq_nil_iff {cs : List Char} : unifyBreaks cs = [] ↔ cs = [] := by
  induction cs using unifyBreaks_induction with
  | nil => exact Iff.rfl
  | pair cs ih =>
    rw [unifyBreaks_break]
    exact iff_of_false (List.cons_ne_nil _ _) (List.cons_ne_nil _ _)
  | cons c cs h ih =>
    rw [unifyBreaks_cons h]
    exact iff_of_false (List.cons_ne_nil _ _) (List.cons_ne_nil _ _)

/-! ### Closed lines -/

theorem closeLine_cons {c : Char} {cs : List Char} (h : cs ≠ []) :
    closeLine (c :: cs) = c :: closeLine cs := by
  cases cs with
  | nil => exact absurd rfl h
  | cons d cs => rfl

theorem closeLine_newline_cons (cs : List Char) :
    closeLine ('\n' :: cs) = '\n' :: closeLine cs := by
  cases cs with
  | nil => rfl
  | cons d cs => rfl

theorem closeLine_append_newline (cs : List Char) : closeLine (cs ++ ['\n']) = cs ++ ['\n'] := by
  induction cs with
  | nil => rfl
  | cons c cs ih =>
    have hne : cs ++ ['\n'] ≠ [] := List.append_ne_nil_of_right_ne_nil cs (List.cons_ne_nil _ _)
    rw [List.cons_append, closeLine_cons hne, ih]

theorem lines_cons {c : Char} {cs : List Char} (hfeed : c ≠ '\n')
    (h : c ≠ '\r' ∨ cs.head? ≠ some '\n') :
    lines (c :: cs) = (c :: (lines cs).headD []) :: (lines cs).drop 1 := by
  have hbreak : ∀ rest, c = '\r' → cs = '\n' :: rest → False := by
    rintro rest rfl rfl
    rcases h with h | h
    · exact h rfl
    · exact h rfl
  rw [lines]
  · cases lines cs with
    | nil => rfl
    | cons l ls => rfl
  · exact hfeed
  · exact hbreak

theorem lines_eq_nil_iff {cs : List Char} : lines cs = [] ↔ cs = [] := by
  induction cs using unifyBreaks_induction with
  | nil => exact iff_of_true lines_nil rfl
  | pair cs ih =>
    rw [lines]
    exact iff_of_false (List.cons_ne_nil _ _) (List.cons_ne_nil _ _)
  | cons c cs h ih =>
    refine iff_of_false ?_ (List.cons_ne_nil _ _)
    by_cases hfeed : c = '\n'
    · rw [hfeed, lines_newline]
      exact List.cons_ne_nil _ _
    · rw [lines_cons hfeed h]
      exact List.cons_ne_nil _ _

/-- No line holds a line feed. -/
theorem notMem_of_mem_lines {cs l : List Char} (h : l ∈ lines cs) : '\n' ∉ l := by
  induction cs using unifyBreaks_induction generalizing l with
  | nil => exact absurd h List.not_mem_nil
  | pair cs ih =>
    rw [lines, List.mem_cons] at h
    rcases h with rfl | h
    · exact List.not_mem_nil
    · exact ih h
  | cons c cs hc ih =>
    by_cases hfeed : c = '\n'
    · rw [hfeed, lines_newline, List.mem_cons] at h
      rcases h with rfl | h
      · exact List.not_mem_nil
      · exact ih h
    · rw [lines_cons hfeed hc, List.mem_cons] at h
      cases hlines : lines cs with
      | nil =>
        rw [hlines, List.drop_nil, or_iff_left List.not_mem_nil] at h
        rw [h, List.headD_nil, List.mem_singleton]
        exact Ne.symm hfeed
      | cons m ms =>
        rw [hlines] at h ih
        rcases h with rfl | h
        · rw [List.mem_cons, not_or]
          exact ⟨Ne.symm hfeed, ih List.mem_cons_self⟩
        · exact ih (List.mem_cons_of_mem m h)

/-- **What lines written back are**: the text with line feeds for its line breaks and
its last line closed. -/
theorem unlines_lines (cs : List Char) : unlines (lines cs) = closeLine (unifyBreaks cs) := by
  induction cs using unifyBreaks_induction with
  | nil => rfl
  | pair cs ih =>
    rw [unifyBreaks_break, closeLine_newline_cons, ← ih, lines, unlines_cons]
    rfl
  | cons c cs h ih =>
    rw [unifyBreaks_cons h]
    by_cases hfeed : c = '\n'
    · rw [hfeed, lines_newline, unlines_cons, ih, closeLine_newline_cons]
      rfl
    · rw [lines_cons hfeed h, unlines_cons]
      cases hlines : lines cs with
      | nil =>
        rw [lines_eq_nil_iff.mp hlines, unifyBreaks_nil, closeLine, if_neg hfeed]
        rfl
      | cons l ls =>
        -- the line goes on, so there is more of the text
        have hcs : cs ≠ [] := by
          rintro rfl
          cases hlines
        rw [closeLine_cons (mt unifyBreaks_eq_nil_iff.mp hcs), ← ih, hlines, unlines_cons]
        rfl

/-! ### Line feeds alone -/

/-- What stands before each line feed of a text. -/
def closedLines (cs : List Char) : List (List Char) := (cs.splitOn '\n').dropLast

theorem splitOn_unlines (ls : List (List Char)) :
    (unlines ls).splitOn '\n' = (ls.flatMap fun l => l.splitOn '\n') ++ [[]] := by
  induction ls with
  | nil => rfl
  | cons l ls ih =>
    rw [unlines_cons, List.splitOn_append_cons_self, ih, List.flatMap_cons, List.append_assoc]

theorem closedLines_unlines (ls : List (List Char)) :
    closedLines (unlines ls) = ls.flatMap fun l => l.splitOn '\n' := by
  rw [closedLines, splitOn_unlines, List.dropLast_concat]

/-- Lines without line feeds come back. -/
theorem closedLines_unlines_of_notMem {ls : List (List Char)} (h : ∀ l ∈ ls, '\n' ∉ l) :
    closedLines (unlines ls) = ls := by
  rw [closedLines_unlines]
  induction ls with
  | nil => rfl
  | cons l ls ih =>
    have hl : '\n' ∉ l := h l List.mem_cons_self
    have hls : ∀ m ∈ ls, '\n' ∉ m := fun m hm => h m (List.mem_cons_of_mem l hm)
    rw [List.flatMap_cons, List.splitOn_eq_singleton hl, ih hls, List.singleton_append]

theorem length_splitOn_pos (l : List Char) : 0 < (l.splitOn '\n').length :=
  List.length_pos_iff.mpr (List.splitOn_ne_nil '\n' l)

theorem one_lt_length_splitOn {l : List Char} (h : '\n' ∈ l) : 1 < (l.splitOn '\n').length := by
  obtain ⟨before, behind, rfl⟩ := List.append_of_mem h
  rw [List.splitOn_append_cons_self, List.length_append]
  have hbefore := length_splitOn_pos before
  have hbehind := length_splitOn_pos behind
  omega

/-- A line with a line feed in it comes back as several. -/
theorem length_closedLines_unlines_iff {ls : List (List Char)} :
    (closedLines (unlines ls)).length = ls.length ↔ ∀ l ∈ ls, '\n' ∉ l := by
  have hle : ∀ ms : List (List Char), ms.length ≤ (ms.flatMap fun l => l.splitOn '\n').length := by
    intro ms
    induction ms with
    | nil => exact Nat.le_refl 0
    | cons m ms ih =>
      have hm := length_splitOn_pos m
      rw [List.flatMap_cons, List.length_append, List.length_cons]
      omega
  constructor
  · rw [closedLines_unlines]
    intro hlength l hl hfeed
    obtain ⟨before, behind, rfl⟩ := List.append_of_mem hl
    have hone := one_lt_length_splitOn hfeed
    have hbefore := hle before
    have hbehind := hle behind
    rw [List.flatMap_append, List.flatMap_cons, List.length_append, List.length_append,
      List.length_append, List.length_cons] at hlength
    omega
  · intro h
    rw [closedLines_unlines_of_notMem h]

end RemoteBatch.Text
