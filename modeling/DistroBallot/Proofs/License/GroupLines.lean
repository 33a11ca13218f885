import DistroBallot.License.Groups
import DistroBallot.Proofs.Text.Lines
import Mathlib

/-!
# License groups line by line

The lines of a file of license groups are read one by one, and each of them adds members to those
found before. `Groups.read` takes a line as it stands: cut at its first number sign, stripped, passed
over if nothing is left, and taken apart into the group and the members otherwise, which fails for a
line of no words. It never does (`readLine_eq`), since a text that is not empty once it is stripped
has a word.

What a text adds is put together from what its lines add (`added_append`), and a line adds nothing
but for the words in front of its comment. So texts can be put together at a seam, idle lines put in
at one, comments put behind lines and blanks exchanged for other blanks.
-/

namespace DistroBallot

/-! ## Sets of identifiers -/

namespace IdentifierSet

variable {l l' : List Text}

/-- The members of either set. -/
instance : Union IdentifierSet :=
  ⟨fun s t => .ofList (s.toList ++ t.toList)⟩

theorem pairwise_insertSorted {x : Text} (h : l.Pairwise (· < ·)) :
    (insertSorted x l).Pairwise (· < ·) := by
  induction l with
  | nil => exact List.pairwise_singleton _ x
  | cons y rest ih =>
      rw [List.pairwise_cons] at h
      obtain ⟨hfirst, hrest⟩ := h
      rw [insertSorted]
      split
      · next hlt =>
          refine List.pairwise_cons.mpr ⟨?_, List.pairwise_cons.mpr ⟨hfirst, hrest⟩⟩
          intro z hz
          rcases List.mem_cons.mp hz with rfl | hz
          · exact hlt
          · exact hlt.trans (hfirst z hz)
      · next hnot =>
          split
          · exact List.pairwise_cons.mpr ⟨hfirst, hrest⟩
          · next hne =>
              refine List.pairwise_cons.mpr ⟨?_, ih hrest⟩
              intro z hz
              rcases mem_insertSorted.mp hz with rfl | hz
              · exact lt_of_le_of_ne (not_lt.mp hnot) (Ne.symm hne)
              · exact hfirst z hz

theorem pairwise_ofList (l : List Text) : (ofList l).toList.Pairwise (· < ·) := by
  rw [ofList]
  induction l with
  | nil => exact .nil
  | cons x l ih => exact pairwise_insertSorted ih

theorem mem_toList_ofList {x : Text} : x ∈ (ofList l).toList ↔ x ∈ l := by
  rw [← List.contains_iff_mem]
  exact contains_ofList

/-- **Sets are equal if they have the same members.** -/
theorem ofList_congr (h : ∀ x, x ∈ l ↔ x ∈ l') : ofList l = ofList l' := by
  have hmembers : (ofList l).toList = (ofList l').toList := by
    apply (pairwise_ofList l).eq_of_mem_iff (pairwise_ofList l')
    intro x
    rw [mem_toList_ofList, mem_toList_ofList, h]
  exact congrArg IdentifierSet.mk hmembers

theorem ofList_append (l l' : List Text) : ofList (l ++ l') = ofList l ∪ ofList l' := by
  apply ofList_congr
  intro x
  rw [List.mem_append, List.mem_append, mem_toList_ofList, mem_toList_ofList]

end IdentifierSet

namespace License
namespace Groups

open Text

variable {a b g left right t u x y line name : Text} {wanted categories : List Text}

/-! ## Reading a line -/

/-- The members that a line adds. There is no answer if a line is taken apart that has no words. -/
def readLine (wanted : List Text) (line : Text) : Option (List Text) :=
  let kept := (cutAt '#' line).1.strip
  if kept.isEmpty then some []
  else match kept.words with
    | [] => none
    | group :: members =>
      if wanted.contains group.upper then
        some ((members.filter (fun m => m.head? != some '@')).map Text.lower)
      else some []

/-- The members found in the lines of a text, if every line has an answer. -/
def read (text : Text) (categories : List Text) : Option IdentifierSet :=
  (text.splitLines.mapM (readLine (categories.map Text.upper))).map fun added =>
    .ofList added.flatten

/-- **Every line has an answer**: it is passed over just when it has no words. -/
theorem readLine_eq (wanted : List Text) (line : Text) :
    readLine wanted line = some (lineMembers wanted line) := by
  have hwords : (cutAt '#' line).1.strip.words = lineWords line := words_strip _
  have hempty : (cutAt '#' line).1.strip.isEmpty = true ↔ lineWords line = [] := by
    rw [List.isEmpty_iff, strip_eq_nil_iff, ← words_eq_nil_iff]
    rfl
  rw [readLine, lineMembers]
  split
  · next h => rw [hempty.mp h]
  · next h =>
      rw [hwords]
      cases hline : lineWords line with
      | nil => exact absurd (hempty.mpr hline) h
      | cons group members => exact (apply_ite some _ _ _).symm

/-- What the lines of a text add, in their order. -/
def added (wanted : List Text) (text : Text) : List Text :=
  text.lines.flatMap (lineMembers wanted)

theorem lineMembers_nil (wanted : List Text) : lineMembers wanted [] = [] := rfl

theorem flatMap_splitLines_lineMembers (wanted : List Text) (t : Text) :
    t.splitLines.flatMap (lineMembers wanted) = added wanted t :=
  flatMap_splitLines (lineMembers_nil wanted) t

theorem members_eq (t : Text) (categories : List Text) :
    members t categories = .ofList (added (categories.map Text.upper) t) := rfl

/-- **A file is read without fail**, and its members are found. -/
theorem read_eq (t : Text) (categories : List Text) :
    read t categories = some (members t categories) := by
  have hline : readLine (categories.map Text.upper) =
      fun line => pure (lineMembers (categories.map Text.upper) line) :=
    funext (readLine_eq _)
  rw [read, hline, List.mapM_pure, members_eq, ← flatMap_splitLines_lineMembers]
  rfl

/-! ## Members of lines -/

theorem mem_lineMembers_iff : name ∈ lineMembers wanted line ↔
    ∃ group rest, lineWords line = group :: rest ∧ group.upper ∈ wanted ∧
      ∃ word ∈ rest, word.head? ≠ some '@' ∧ word.lower = name := by
  rw [lineMembers]
  split
  · next hnone => simp [hnone]
  · next group rest hwords =>
      simp only [hwords, List.cons.injEq]
      split
      · next hwanted =>
          simp only [List.mem_map, List.mem_filter, bne_iff_ne, and_assoc]
          constructor
          · rintro ⟨word, hmem, hword⟩
            exact ⟨group, rest, rfl, rfl, List.contains_iff_mem.mp hwanted, word, hmem, hword⟩
          · rintro ⟨_, _, rfl, rfl, -, word, hmem, hword⟩
            exact ⟨word, hmem, hword⟩
      · next hother =>
          constructor
          · rintro ⟨⟩
          · rintro ⟨_, _, ⟨rfl, rfl⟩, hwanted, -⟩
            exact absurd (List.contains_iff_mem.mpr hwanted) hother

theorem mem_added_iff : name ∈ added wanted t ↔
    ∃ line ∈ t.splitLines, ∃ group rest, lineWords line = group :: rest ∧ group.upper ∈ wanted ∧
      ∃ word ∈ rest, word.head? ≠ some '@' ∧ word.lower = name := by
  rw [← flatMap_splitLines_lineMembers, List.mem_flatMap]
  exact exists_congr fun line => and_congr_right fun _ => mem_lineMembers_iff

/-- **Who is a member**: the later words of the lines whose first word is a category, but for
references to other groups. -/
theorem contains_members_iff : (members t categories).contains name = true ↔
    ∃ line ∈ t.splitLines, ∃ group rest,
      words (line.takeWhile (· != '#')) = group :: rest ∧
      (∃ category ∈ categories, group.upper = category.upper) ∧
      ∃ word ∈ rest, word.head? ≠ some '@' ∧ word.lower = name := by
  rw [members_eq, IdentifierSet.contains_ofList, mem_added_iff]
  simp only [List.mem_map, lineWords, eq_comm]

/-- The members of more categories are those of each. -/
theorem members_append_categories (t : Text) (categories others : List Text) :
    members t (categories ++ others) = members t categories ∪ members t others := by
  rw [members_eq, members_eq, members_eq, ← IdentifierSet.ofList_append]
  apply IdentifierSet.ofList_congr
  intro name
  simp only [List.mem_append, mem_added_iff, List.map_append, or_and_right, and_or_left,
    exists_or]

/-! ## Texts at a seam -/

theorem added_append (h : Seam a b) : added wanted (a ++ b) = added wanted a ++ added wanted b :=
  h.flatMap_lines (lineMembers_nil wanted)

theorem members_append_cons {c : Char} (h : isLineBreak c = true) (a b : Text)
    (categories : List Text) :
    members (a ++ c :: b) categories = members a categories ∪ members b categories := by
  rw [members_eq, members_eq, members_eq, ← IdentifierSet.ofList_append, added, added, added,
    lines_append_cons h, List.flatMap_append]

/-- There is nothing but blanks in front of the comment. -/
def Idle (line : Text) : Prop :=
  isBlankText (line.takeWhile (· != '#')) = true

instance (line : Text) : Decidable (Idle line) :=
  inferInstanceAs (Decidable (_ = true))

theorem Idle.lineMembers_eq (h : Idle line) : lineMembers wanted line = [] := by
  rw [lineMembers, lineWords, words_eq_nil_iff.mpr h]

theorem added_of_idle (h : ∀ line ∈ u.splitLines, Idle line) : added wanted u = [] := by
  rw [← flatMap_splitLines_lineMembers, List.flatMap_eq_nil_iff]
  exact fun line hline => (h line hline).lineMembers_eq

/-- **Idle lines can be put in** wherever a line ends or starts. -/
theorem members_insert_idle (hab : Seam a b) (hau : Seam a u) (hub : Seam u b)
    (h : ∀ line ∈ u.splitLines, Idle line) (categories : List Text) :
    members (a ++ u ++ b) categories = members (a ++ b) categories := by
  by_cases hnil : u = []
  · rw [hnil, List.append_nil]
  · have hbehind : Seam (a ++ u) b := by
      rcases hub with hub | hub
      · refine .inl ?_
        rwa [List.getLast?_append_of_ne_nil _ hnil]
      · exact .inr hub
    rw [members_eq, members_eq, added_append hbehind, added_append hau, added_append hab,
      added_of_idle h, List.append_nil]

/-! ## Changes within a line -/

/-- **What is not seen in a line is not seen in a text.** -/
theorem members_replace {before after : List Text} (ha : a.lines = before ++ [left])
    (hb : b.lines = right :: after) (hx : ∀ c ∈ x, isLineBreak c = false)
    (hy : ∀ c ∈ y, isLineBreak c = false)
    (h : lineWords (left ++ x ++ right) = lineWords (left ++ y ++ right))
    (categories : List Text) :
    members (a ++ x ++ b) categories = members (a ++ y ++ b) categories := by
  have hlines : ∀ z : Text, (∀ c ∈ z, isLineBreak c = false) →
      lines (a ++ z ++ b) = before ++ (left ++ z ++ right) :: after := by
    intro z hz
    have hfront : lines (a ++ z) = before ++ [left ++ z] :=
      pieces_append ha (lines_of_no_breaks hz)
    exact pieces_append hfront hb
  have hsame : lineMembers (categories.map Text.upper) (left ++ x ++ right) =
      lineMembers (categories.map Text.upper) (left ++ y ++ right) := by
    rw [lineMembers, lineMembers, h]
  rw [members_eq, members_eq, added, added, hlines x hx, hlines y hy, List.flatMap_append,
    List.flatMap_append, List.flatMap_cons, List.flatMap_cons, hsame]

theorem lineWords_append_comment (line comment : Text) :
    lineWords (line ++ '#' :: comment) = lineWords line := by
  rw [lineWords, lineWords, List.takeWhile_append]
  split
  · next hall =>
      have hline := List.takeWhile_prefix (p := fun c => c != '#') (l := line)
      rw [hline.eq_of_length hall]
      simp
  · rfl

/-- **A comment can be put behind a line.** -/
theorem members_append_comment {comment : Text} (hcomment : ∀ c ∈ comment, isLineBreak c = false)
    (hb : ∀ c ∈ b.head?, isLineBreak c = true) (a : Text) (categories : List Text) :
    members (a ++ '#' :: comment ++ b) categories = members (a ++ b) categories := by
  obtain ⟨before, left, ha⟩ := exists_lines_eq_concat a
  obtain ⟨after, hlines⟩ : ∃ after, b.lines = [] :: after := by
    cases b with
    | nil => exact ⟨[], rfl⟩
    | cons c rest => exact ⟨lines rest, lines_append_cons (hb c rfl) [] rest⟩
  have hwords : lineWords (left ++ '#' :: comment ++ []) = lineWords (left ++ [] ++ []) := by
    rw [List.append_nil, List.append_nil, List.append_nil, lineWords_append_comment]
  have hbreaks : ∀ c ∈ '#' :: comment, isLineBreak c = false :=
    List.forall_mem_cons.mpr ⟨by decide, hcomment⟩
  rw [members_replace ha hlines hbreaks (by simp) hwords, List.append_nil]

/-- Blanks within a line, at least one. -/
structure Spacing (g : Text) : Prop where
  ne_nil : g ≠ []
  blank : g.isBlankText = true
  no_break : ∀ c ∈ g, isLineBreak c = false

/-- Blanks within a line are exchanged for others. -/
inductive Respaced : Text → Text → Prop
  | intro (a b : Text) {g g' : Text} : Spacing g → Spacing g' → Respaced (a ++ g ++ b) (a ++ g' ++ b)

theorem lineWords_append_spacing (hg : Spacing g) (left right : Text) :
    lineWords (left ++ g ++ right) =
      if left.takeWhile (· != '#') = left then left.words ++ lineWords right
      else lineWords left := by
  have hsign : g.takeWhile (· != '#') = g := by
    rw [List.takeWhile_eq_self_iff]
    intro c hc
    have hblank := List.all_eq_true.mp hg.blank c hc
    rw [bne_iff_ne]
    rintro rfl
    cases hblank
  rw [lineWords, List.append_assoc, List.takeWhile_append, List.takeWhile_append, hsign]
  by_cases hall : left.takeWhile (· != '#') = left
  · rw [if_pos hall, if_pos (by rw [hall]), if_pos rfl, ← List.append_assoc,
      words_append_blanks hg.ne_nil hg.blank]
    rfl
  · rw [if_neg hall, if_neg]
    · rfl
    · exact fun hlength => hall ((List.takeWhile_prefix _).eq_of_length hlength)

/-- **Which blanks stand between words does not matter.** -/
theorem Respaced.members_eq (h : Respaced t u) (categories : List Text) :
    members t categories = members u categories := by
  cases h with
  | @intro a b g g' hg hg' =>
      obtain ⟨before, left, ha⟩ := exists_lines_eq_concat a
      obtain ⟨right, after, hb⟩ := List.exists_cons_of_ne_nil (pieces_ne_nil _ b)
      have hwords : lineWords (left ++ g ++ right) = lineWords (left ++ g' ++ right) := by
        rw [lineWords_append_spacing hg, lineWords_append_spacing hg']
      exact members_replace ha hb hg.no_break hg'.no_break hwords categories

/-- **The members of a file are those of its lines.** It is read without fail, its members are the
later words of the lines of its categories, and texts and categories put together have the members
of each. Comments behind lines, idle lines and other blanks in the place of blanks change nothing. -/
theorem read_and_members_line_by_line :
    (∀ t categories, read t categories = some (members t categories)) ∧
    (∀ t categories name, (members t categories).contains name = true ↔
      ∃ line ∈ t.splitLines, ∃ group rest,
        words (line.takeWhile (· != '#')) = group :: rest ∧
        (∃ category ∈ categories, group.upper = category.upper) ∧
        ∃ word ∈ rest, word.head? ≠ some '@' ∧ word.lower = name) ∧
    (∀ t₁ t₂ categories, members (t₁ ++ '\n' :: t₂) categories =
      members t₁ categories ∪ members t₂ categories) ∧
    (∀ t categories₁ categories₂, members t (categories₁ ++ categories₂) =
      members t categories₁ ∪ members t categories₂) ∧
    (∀ a b comment categories, (∀ c ∈ comment, isLineBreak c = false) →
      (∀ c ∈ b.head?, isLineBreak c = true) →
      members (a ++ '#' :: comment ++ b) categories = members (a ++ b) categories) ∧
    (∀ a b u categories, Seam a b → Seam a u → Seam u b → (∀ line ∈ u.splitLines, Idle line) →
      members (a ++ u ++ b) categories = members (a ++ b) categories) ∧
    (∀ t u categories, Relation.ReflTransGen Respaced t u →
      members t categories = members u categories) := by
  refine ⟨read_eq, fun t categories name => contains_members_iff, ?_, members_append_categories,
    ?_, ?_, ?_⟩
  · exact members_append_cons (by decide)
  · exact fun a b comment categories hcomment hb => members_append_comment hcomment hb a categories
  · exact fun a b u categories hab hau hub hidle => members_insert_idle hab hau hub hidle categories
  · intro t u categories h
    induction h with
    | refl => rfl
    | tail _ hstep ih => exact ih.trans (hstep.members_eq categories)

/-- One free identifier, with a comment behind its line, a comment in front of the line, and a
tabulation and a blank in the place of a blank. -/
theorem read_and_members_of_one_line :
    let categories := ["misc-free".toList]
    let foo : IdentifierSet := ⟨["foo".toList]⟩
    read "MISC-FREE Foo @Bar\r\n".toList categories = some foo ∧
    foo.contains "foo".toList = true ∧
    members ("MISC-FREE Foo\r".toList ++ '\n' :: "EULA Bar".toList) categories =
      foo ∪ members "EULA Bar".toList categories ∧
    members "MISC-FREE Foo".toList (categories ++ ["eula".toList]) =
      foo ∪ members "MISC-FREE Foo".toList ["eula".toList] ∧
    members "MISC-FREE Foo# Bar\r\n".toList categories = foo ∧
    members "\n # Bar\r\nMISC-FREE Foo".toList categories = foo ∧
    members "MISC-FREE\t Foo".toList categories = foo := by
  intro categories foo
  obtain ⟨hread, hmem, htexts, hcategories, hcomment, hidle, hrespaced⟩ :=
    read_and_members_line_by_line
  have hfoo : members "MISC-FREE Foo".toList categories = foo := by decide +kernel
  have hreturn : members "MISC-FREE Foo\r\n".toList categories = foo := by decide +kernel
  refine ⟨?_, ?_, ?_, ?_, ?_, ?_, ?_⟩
  · rw [hread]
    decide +kernel
  · rw [← hfoo, hmem]
    exact ⟨"MISC-FREE Foo".toList, by decide, "MISC-FREE".toList, ["Foo".toList], by decide,
      ⟨"misc-free".toList, List.mem_cons_self, by decide +kernel⟩,
      "Foo".toList, List.mem_cons_self, by decide, by decide +kernel⟩
  · rw [htexts]
    decide +kernel
  · rw [hcategories, hfoo]
  · rw [← hreturn]
    exact hcomment "MISC-FREE Foo".toList "\r\n".toList " Bar".toList categories
      (by simp [isLineBreak]) (by simp [isLineBreak])
  · rw [← hfoo]
    exact hidle [] "MISC-FREE Foo".toList "\n # Bar\r\n".toList categories (.inl (by simp))
      (.inl (by simp)) (.inl (by simp [isLineBreak])) (by decide +kernel)
  · rw [← hfoo]
    have hspacing : Spacing " ".toList := ⟨by decide, by decide, by simp [isLineBreak]⟩
    have htab : Spacing "\t ".toList := ⟨by decide, by decide, by simp [isLineBreak]⟩
    exact hrespaced _ _ categories (.single (.intro "MISC-FREE".toList "Foo".toList htab hspacing))

end Groups
end License
end DistroBallot
