import Machining.Proofs.Result
import Machining.Text.Template

/-!
# Templates that are put together

A template is written out piece by piece: a character, a doubled brace, or a field.  Where a piece
ends is told by the piece alone, so what comes behind it does not change it.  Therefore a template
without faults may be followed by any other one, and both are written out one after the other.

* `piece` is the first piece of a template, written out, and `piece_append` says that it does not
  depend on what follows.
* `writeOut_cons` takes a template apart into its first piece and the others.
* `fill_append` puts templates together.
* `fill_doubled`: a text whose braces are doubled is written out as it is.
-/

namespace Machining.Text.Template

/-! ## Fields -/

/-- The name of a field ends where the field says. -/
private theorem splitName_eq_ok {inBracket : Bool} {name s found rest : List Char} {mark : Char}
    (h : splitName inBracket name s = .ok (found, mark, rest)) :
    ∃ used, s = used ++ rest ∧
      ∀ other, splitName inBracket name (used ++ other) = .ok (found, mark, other) := by
  fun_induction splitName inBracket name s with
  | case1 => cases h
  -- what is used up is the same whatever follows: within brackets a character more
  | case2 name c s ih =>
    obtain ⟨used, rfl, hused⟩ := ih h
    refine ⟨c :: used, rfl, fun other => ?_⟩
    rw [List.cons_append, splitName, if_pos rfl, hused]
  | case3 => cases h
  -- the mark that ends the name
  | case4 inBracket name c s hbracket hopen hmark =>
    cases h
    refine ⟨[mark], rfl, fun other => ?_⟩
    rw [List.singleton_append, splitName, if_neg hbracket, if_neg hopen, if_pos hmark]
  -- any other character of the name
  | case5 inBracket name c s hbracket hopen hmark ih =>
    obtain ⟨used, rfl, hused⟩ := ih h
    refine ⟨c :: used, rfl, fun other => ?_⟩
    rw [List.cons_append, splitName, if_neg hbracket, if_neg hopen, if_neg hmark, hused]

/-- A layout ends at the brace that closes its field. -/
private theorem splitLayout_eq_ok {depth : Nat} {layout s found rest : List Char}
    (h : splitLayout depth layout s = .ok (found, rest)) :
    ∃ used, s = used ++ rest ∧
      ∀ other, splitLayout depth layout (used ++ other) = .ok (found, other) := by
  -- what is used up is the same whatever follows
  fun_induction splitLayout depth layout s with
  | case1 => cases h
  | case2 depth layout s ih =>
    obtain ⟨used, rfl, hused⟩ := ih h
    exact ⟨'\x7b' :: used, rfl, fun other => by simpa [splitLayout] using hused other⟩
  | case3 layout s hopen =>
    cases h
    exact ⟨['\x7d'], rfl, fun other => by simp [splitLayout]⟩
  | case4 layout s hopen outer ih =>
    obtain ⟨used, rfl, hused⟩ := ih h
    exact ⟨'\x7d' :: used, rfl, fun other => by simpa [splitLayout] using hused other⟩
  | case5 depth layout c s hopen hclose ih =>
    obtain ⟨used, rfl, hused⟩ := ih h
    exact ⟨c :: used, rfl, fun other => by simpa [splitLayout, hopen, hclose] using hused other⟩

/-- A field ends where it says, whatever follows. -/
private theorem splitField_eq_ok {s rest : List Char} {field : Field}
    (h : splitField s = .ok (field, rest)) :
    ∃ used, s = used ++ rest ∧ ∀ other, splitField (used ++ other) = .ok (field, other) := by
  unfold splitField at h
  split at h
  · cases h
  -- the field is closed behind its name
  · rename_i name rest' hname
    cases h
    obtain ⟨used, rfl, hused⟩ := splitName_eq_ok hname
    exact ⟨used, rfl, fun other => by simp [splitField, hused]⟩
  -- the name is followed by a layout
  · rename_i name behind hname
    obtain ⟨⟨layout, after⟩, hlayout, hfield⟩ := exists_of_map_eq_ok h
    obtain ⟨used, rfl, hused⟩ := splitName_eq_ok hname
    obtain ⟨used', rfl, hused'⟩ := splitLayout_eq_ok hlayout
    cases hfield
    exact ⟨used ++ used', by simp, fun other => by
      simp [splitField, hused, hused', List.append_assoc, Except.map]⟩
  -- the name is followed by a conversion, and perhaps by a layout
  · rename_i name mark behind hclose hcolon hname
    obtain ⟨used, rfl, hused⟩ := splitName_eq_ok hname
    split at h
    · cases h
    · cases h
    · rename_i conversion after
      cases h
      exact ⟨used ++ [conversion, '\x7d'], by simp, fun other => by
        simp [splitField, hused]⟩
    · rename_i conversion more
      obtain ⟨⟨layout, after⟩, hlayout, hfield⟩ := exists_of_map_eq_ok h
      obtain ⟨used', rfl, hused'⟩ := splitLayout_eq_ok hlayout
      cases hfield
      exact ⟨used ++ conversion :: ':' :: used', by simp, fun other => by
        simp [splitField, hused, hused', Except.map]⟩
    · cases h

/-! ## Pieces -/

section Pieces

variable (key value : String) (write : List Char → Except Fault (List Char))

/-- What a field stands for. -/
def showField (field : Field) : Except Fault (List Char) := do
  let part ← resolve key value field.name
  let converted ← convert part field.conversion
  let layout ← if field.layout.contains '\x7b' then write field.layout else .ok field.layout
  layOut layout converted

/-- The first piece of a template, written out, and the rest of the template. -/
def piece (c : Char) (rest : List Char) : Except Fault (List Char × List Char) :=
  if c = '\x7b' ∨ c = '\x7d' then
    match rest with
    | [] => .error (.loneBrace c)
    | next :: after =>
      if next = c then .ok ([c], after)
      else if c = '\x7d' then .error (.loneBrace c)
      else do
        let (field, remaining) ← splitField (next :: after)
        return (← showField key value write field, remaining)
  else .ok ([c], rest)

variable {key value : String} {write : List Char → Except Fault (List Char)}

/-- A template is written out one piece after another. -/
private theorem expand_cons (fuel : Nat) (c : Char) (rest : List Char) :
    expand key value write (fuel + 1) (c :: rest) =
      piece key value write c rest >>= fun (shown, remaining) =>
        (expand key value write fuel remaining).map (shown ++ ·) := by
  rw [expand.eq_def]
  dsimp only
  unfold piece
  split
  · -- a brace: doubled, at fault, or the beginning of a field
    cases rest with
    | nil => rfl
    | cons next after =>
      dsimp only
      split
      · rfl
      split
      · rfl
      -- a field: its name, conversion and layout may each be at fault before the rest is reached
      cases splitField (next :: after) with
      | error fault => rfl
      | ok found =>
        obtain ⟨field, remaining⟩ := found
        simp only [showField, bind, Except.bind, pure, Except.pure]
        cases resolve key value field.name with
        | error fault => rfl
        | ok part =>
          dsimp only
          cases convert part field.conversion with
          | error fault => rfl
          | ok converted =>
            dsimp only
            split
            · cases write field.layout with
              | error fault => rfl
              | ok layout =>
                cases hshown : layOut layout converted with
                | error fault => simp only [hshown]
                | ok shown => simp only [hshown, Except.map]
            · cases layOut field.layout converted with
              | error fault => rfl
              | ok shown => rfl
  · rfl

/-- A field is a piece, and what it stands for is written out. -/
theorem piece_of_splitField {next : Char} {after shown remaining : List Char} {field : Field}
    (hnext : next ≠ '\x7b') (hsplit : splitField (next :: after) = .ok (field, remaining))
    (hshown : showField key value write field = .ok shown) :
    piece key value write '\x7b' (next :: after) = .ok (shown, remaining) := by
  unfold piece
  rw [if_pos (.inl rfl)]
  dsimp only
  rw [if_neg hnext, if_neg (by decide), hsplit]
  simp only [bind, Except.bind, hshown, pure, Except.pure]

/-- What follows a piece does not change it. -/
private theorem piece_eq_ok {c : Char} {rest shown remaining : List Char}
    (h : piece key value write c rest = .ok (shown, remaining)) :
    ∃ used, rest = used ++ remaining ∧
      ∀ other, piece key value write c (used ++ other) = .ok (shown, other) := by
  unfold piece at h
  split at h
  · rename_i hbrace
    split at h
    · cases h
    rename_i next after
    split at h
    · rename_i hdoubled
      cases h
      exact ⟨[next], rfl, fun other => by simp [piece, hbrace, hdoubled]⟩
    split at h
    · cases h
    · rename_i hdoubled hopen
      obtain ⟨⟨field, behind⟩, hfield, h⟩ := exists_of_bind_eq_ok h
      obtain ⟨text, htext, h⟩ := exists_of_bind_eq_ok h
      cases h
      obtain ⟨used, hsplit, hused⟩ := splitField_eq_ok hfield
      refine ⟨used, hsplit, fun other => ?_⟩
      cases used with
      -- no field is closed where nothing is left
      | nil => cases hused []
      | cons first used =>
        obtain rfl : next = first := (List.cons.inj hsplit).1
        obtain rfl : c = '\x7b' := hbrace.resolve_right hopen
        exact piece_of_splitField hdoubled (hused other) htext
  · rename_i hplain
    cases h
    exact ⟨[], rfl, fun other => by simp [piece, hplain]⟩

/-- How many steps a template is given plays no part, if there is one for each character. -/
private theorem expand_of_length_le {fuel fuel' : Nat} {s : List Char} (h : s.length ≤ fuel)
    (h' : s.length ≤ fuel') : expand key value write fuel s = expand key value write fuel' s := by
  induction fuel generalizing fuel' s with
  | zero =>
    obtain rfl := List.length_eq_zero_iff.mp (Nat.le_zero.mp h)
    cases fuel' <;> rfl
  | succ fuel ih =>
    cases s with
    | nil => cases fuel' <;> rfl
    | cons c rest =>
      cases fuel' with
      | zero => cases h'
      | succ fuel' =>
        rw [expand_cons, expand_cons]
        cases hpiece : piece key value write c rest with
        | error fault => rfl
        | ok found =>
          obtain ⟨shown, remaining⟩ := found
          -- the piece leaves no more than was there behind its first character
          obtain ⟨used, rfl, -⟩ := piece_eq_ok hpiece
          simp only [List.length_cons, List.length_append] at h h'
          have hrest : expand key value write fuel remaining =
              expand key value write fuel' remaining := ih (by omega) (by omega)
          show (expand key value write fuel remaining).map _ = _
          rw [hrest]
          rfl

/-- What a template is written out as. -/
def writeOut (key value : String) (write : List Char → Except Fault (List Char)) (s : List Char) :
    Except Fault (List Char) :=
  expand key value write s.length s

theorem writeOut_cons (c : Char) (rest : List Char) :
    writeOut key value write (c :: rest) =
      piece key value write c rest >>= fun (shown, remaining) =>
        (writeOut key value write remaining).map (shown ++ ·) := by
  rw [writeOut, List.length_cons, expand_cons]
  cases hpiece : piece key value write c rest with
  | error fault => rfl
  | ok found =>
    obtain ⟨shown, remaining⟩ := found
    obtain ⟨used, rfl, -⟩ := piece_eq_ok hpiece
    have hrest : expand key value write (used ++ remaining).length remaining =
        writeOut key value write remaining := expand_of_length_le (by simp) (Nat.le_refl _)
    show (expand key value write (used ++ remaining).length remaining).map _ = _
    rw [hrest]
    rfl

/-- A template without faults may be followed by any other one. -/
theorem writeOut_append {s out : List Char} (h : writeOut key value write s = .ok out)
    (t : List Char) :
    writeOut key value write (s ++ t) = (writeOut key value write t).map (out ++ ·) := by
  -- one piece after another; what a piece leaves is shorter than what it was taken from
  induction hlength : s.length using Nat.strongRecOn generalizing s out with
  | _ length ih =>
    cases s with
    | nil =>
      cases h
      cases hrest : writeOut key value write t with
      | error fault => simp [hrest, Except.map]
      | ok rest => simp [hrest, Except.map]
    | cons c rest =>
      rw [writeOut_cons] at h
      obtain ⟨⟨shown, remaining⟩, hpiece, h⟩ := exists_of_bind_eq_ok h
      obtain ⟨others, hothers, rfl⟩ := exists_of_map_eq_ok h
      obtain ⟨used, rfl, hused⟩ := piece_eq_ok hpiece
      have hshorter : remaining.length < length := by
        rw [← hlength, List.length_cons, List.length_append]
        omega
      rw [List.cons_append, List.append_assoc, writeOut_cons, hused]
      show (writeOut key value write (remaining ++ t)).map _ = _
      rw [ih remaining.length hshorter hothers rfl]
      cases writeOut key value write t with
      | error fault => rfl
      | ok rest => simp [Except.map]

end Pieces

/-! ## Whole templates -/

section Templates

variable {s t out key value : String}

theorem fill_eq (template : String) :
    fill template key value =
      (writeOut key value (fillWithin key value 1) template.toList).map String.ofList := rfl

/-- A template without faults may be followed by any other one, and both are written out. -/
theorem fill_append (h : fill s key value = .ok out) :
    fill (s ++ t) key value = (fill t key value).map (out ++ ·) := by
  rw [fill_eq] at h
  obtain ⟨chars, hchars, rfl⟩ := exists_of_map_eq_ok h
  rw [fill_eq, fill_eq, String.toList_append, writeOut_append hchars]
  cases writeOut key value (fillWithin key value 1) t.toList with
  | error fault => rfl
  | ok rest => simp [Except.map, String.ofList_append]

/-- A text as a template that is meant to be that text: its braces are doubled. -/
def doubled (s : String) : String :=
  String.ofList (s.toList.flatMap fun c => if c = '\x7b' ∨ c = '\x7d' then [c, c] else [c])

/-- A text whose braces are doubled is written out as it is. -/
theorem fill_doubled (s : String) : fill (doubled s) key value = .ok s := by
  rw [fill_eq, doubled, String.toList_ofList]
  -- each brace is doubled, and each pair is written as one
  have hchars (chars : List Char) :
      writeOut key value (fillWithin key value 1)
        (chars.flatMap fun c => if c = '\x7b' ∨ c = '\x7d' then [c, c] else [c]) = .ok chars := by
    induction chars with
    | nil => rfl
    | cons c chars ih =>
      rw [List.flatMap_cons]
      split
      · rename_i hbrace
        rw [List.cons_append, writeOut_cons]
        simp [piece, hbrace, bind, Except.bind, ih, Except.map]
      · rename_i hplain
        rw [List.cons_append, writeOut_cons]
        simp [piece, hplain, bind, Except.bind, ih, Except.map]
  rw [hchars]
  simp [Except.map]

end Templates

end Machining.Text.Template
