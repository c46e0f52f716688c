import Mathlib
import Machining.Proofs.Program.Layout
import Machining.Proofs.Result

/-!
# Blocks stand alone

The blocks of a program are made one after another, and what one leaves to the next is kept in one
place.  This module says how little of it shows.  The lines between the choice of the work
coordinate system and the remark in front of the footer are the blocks of the operations, one for
each, and more operations at the end only add lines behind them.  In the block of an operation only
its number and two words of the last machined operation before it depend on where it stands: the
tool and the speed of the spindle.  So operations that are not machined can be put in or taken out
anywhere without a trace in the other blocks but for their numbers.

## How it is shown

* `bodyOf` and `blocksOf` read a program apart, and `Divided.blocksOf_eq` says that they find the
  blocks that it was made of.
* `planFailure?` says why an operation cannot be compiled.  It depends on the operation alone, so a
  job fails with the first failure among its operations (`compile_eq_error_iff`).
* `Chained.inherits` says what an operation is compiled with, and `block_renumbered` that its block
  depends on nothing else.
-/

namespace Machining.Program

open Machining.Numeric Machining.Job

/-! ## Reading a program apart -/

/-- Whether a line chooses the work coordinate system. -/
def Line.isWorkOffset : Line → Bool
  | workOffset _ => true
  | _ => false

/-- Whether a line opens the block of an operation. -/
def Line.isOpening : Line → Bool
  | opening .. => true
  | _ => false

/-- The lines of a program between the choice of the work coordinate system and the remark in front
of the footer. -/
def bodyOf (program : List Line) : List Line :=
  ((program.dropWhile fun line => !line.isWorkOffset).drop 1).takeWhile (· ≠ .closing)

/-- The blocks of a program: its body, parted in front of every remark that opens one. -/
def blocksOf (program : List Line) : List (List Line) :=
  (bodyOf program).splitBy fun _ line => !line.isOpening

theorem Line.isOpening_of_isInner {line : Line} (h : line.isInner = true) :
    line.isOpening = false := by
  cases line <;> first | rfl | cases h

theorem Line.ne_closing_of_isInner {line : Line} (h : line.isInner = true) : line ≠ .closing := by
  rintro rfl
  cases h

variable {α : Type} [Scalar α] {settings : Settings α} {stock : Stock α}

namespace Divided

variable {ops : List (Operation α)} {program : List Line} {bodies : List (List Line)}
  {foot : List Line}

private theorem shape (h : Divided settings stock ops program bodies foot) {body : List Line}
    (hmem : body ∈ bodies) : ∃ index kind rest, body = .opening index kind :: rest ∧
      ∀ line ∈ rest, line.isInner = true := by
  obtain ⟨i, hi, rfl⟩ := List.getElem_of_mem hmem
  have hop : i < ops.length := h.length_eq ▸ hi
  obtain ⟨rest, hrest⟩ :=
    h.body_eq i _ _ (List.getElem?_eq_getElem hop) (List.getElem?_eq_getElem hi)
  exact ⟨_, _, rest, hrest⟩

/-- The body of a program is made of its blocks. -/
theorem bodyOf_eq (h : Divided settings stock ops program bodies foot) :
    bodyOf program = bodies.flatten := by
  -- the remark in front of the footer is the first of its kind
  have hinside : ∀ line ∈ bodies.flatten, decide (line ≠ .closing) = true := by
    intro line hmem
    obtain ⟨body, hbody, hline⟩ := List.mem_flatten.mp hmem
    obtain ⟨index, kind, rest, rfl, hrest⟩ := h.shape hbody
    rcases List.mem_cons.mp hline with rfl | hline
    · simp
    · simpa using Line.ne_closing_of_isInner (hrest line hline)
  have hbehind : (program.dropWhile fun line => !line.isWorkOffset).drop 1 =
      bodies.flatten ++ .closing :: foot := by
    simp [h.program_eq, header, Line.isWorkOffset]
  rw [bodyOf, hbehind, List.takeWhile_append_of_pos hinside]
  simp

/-- A program is read apart into the blocks that it was made of. -/
theorem blocksOf_eq (h : Divided settings stock ops program bodies foot) :
    blocksOf program = bodies := by
  rw [blocksOf, h.bodyOf_eq]
  refine List.splitBy_flatten ?_ ?_ ?_
  · intro hnil
    obtain ⟨index, kind, rest, hbody, -⟩ := h.shape hnil
    cases hbody
  · -- behind its first line a block has no remark that opens one
    intro body hmem
    obtain ⟨index, kind, rest, rfl, hrest⟩ := h.shape hmem
    have hinner : ∀ line ∈ rest, (!line.isOpening) = true := by
      intro line hline
      rw [Line.isOpening_of_isInner (hrest line hline)]
      rfl
    refine (List.pairwise_cons.mpr ⟨hinner, ?_⟩).isChain
    exact List.pairwise_of_forall_mem_list fun _ _ line hline => hinner line hline
  · -- every block begins with a remark that opens one
    refine (List.pairwise_of_forall_mem_list ?_).isChain
    intro first hfirst second hsecond
    obtain ⟨_, _, _, rfl, -⟩ := h.shape hfirst
    obtain ⟨_, _, _, rfl, -⟩ := h.shape hsecond
    exact ⟨by simp, by simp, rfl⟩

end Divided

/-! ## Operations that fail -/

/-- Why an operation cannot be compiled, if it cannot. -/
def planFailure? (settings : Settings α) (stock : Stock α) (op : Operation α) :
    Option ArithmeticError :=
  if isMachined stock op then
    match plan settings stock op (safeZ settings stock op) with
    | .error error => some error
    | .ok _ => none
  else none

/-- The block of an operation can be made, with any number and whatever is left over before it, or
it fails for a reason of the operation. -/
theorem block_cases (settings : Settings α) (stock : Stock α) (op : Operation α) :
    (planFailure? settings stock op = none ∧
        ∀ carried index, ∃ body, block settings stock carried index op = .ok body) ∨
      ∃ error, planFailure? settings stock op = some error ∧
        ∀ carried index, block settings stock carried index op = .error error := by
  -- only a block that is machined has a plan that can fail
  by_cases hkind : op.kind = .unknown
  · refine Or.inl ⟨?_, fun carried index => ⟨_, block_of_unknown hkind carried index⟩⟩
    simp [planFailure?, isMachined, hkind]
  · cases hreason : skipReason? stock op with
    | some reason =>
      refine Or.inl ⟨?_, fun carried index => ?_⟩
      · simp [planFailure?, isMachined, hreason]
      · rw [block_of_known hkind carried index, hreason]
        exact ⟨_, rfl⟩
    | none =>
      have hmachined : isMachined stock op = true := by simp [isMachined, hkind, hreason]
      cases hplan : plan settings stock op (safeZ settings stock op) with
      | error error =>
        refine Or.inr ⟨error, ?_, fun carried index => ?_⟩
        · rw [planFailure?, if_pos hmachined, hplan]
        · rw [block_of_known hkind carried index, hreason, hplan]
          rfl
      | ok moves =>
        refine Or.inl ⟨?_, fun carried index => ?_⟩
        · rw [planFailure?, if_pos hmachined, hplan]
        · rw [block_of_known hkind carried index, hreason, hplan]
          exact ⟨_, rfl⟩

/-- Blocks fail with the first failure among their operations. -/
private theorem blocks_cases (settings : Settings α) (stock : Stock α) (carried : Carried α)
    (index : Nat) (ops : List (Operation α)) :
    (ops.findSome? (planFailure? settings stock) = none ∧
        ∃ made, blocks settings stock carried index ops = .ok made) ∨
      ∃ error, ops.findSome? (planFailure? settings stock) = some error ∧
        blocks settings stock carried index ops = .error error := by
  induction ops generalizing carried index with
  | nil => exact Or.inl ⟨rfl, _, rfl⟩
  | cons op ops ih =>
    -- whether the first block fails does not depend on what is left over before it
    rcases block_cases settings stock op with ⟨hnone, hmade⟩ | ⟨error, hsome, hfails⟩
    · obtain ⟨body, hbody⟩ := hmade carried index
      rw [List.findSome?_cons, hnone, blocks, hbody]
      rcases ih (leaves settings stock carried op) (index + 1) with
        ⟨hrest, made, hmade⟩ | ⟨error, hrest, hfails⟩
      · refine Or.inl ⟨hrest, ?_⟩
        simp only [hmade, bind, Except.bind]
        exact ⟨_, rfl⟩
      · refine Or.inr ⟨error, hrest, ?_⟩
        simp only [hfails, bind, Except.bind]
    · refine Or.inr ⟨error, ?_, ?_⟩
      · rw [List.findSome?_cons, hsome]
      · rw [blocks, hfails carried index]
        rfl

/-- A job that does not compile fails with the first failure among its operations. -/
theorem compile_eq_error_iff {ops : List (Operation α)} {error : ArithmeticError} :
    compile settings stock ops = .error error ↔
      ops.findSome? (planFailure? settings stock) = some error := by
  unfold compile
  rcases blocks_cases settings stock (start settings stock) 1 ops with
    ⟨hnone, made, hmade⟩ | ⟨found, hsome, hfails⟩
  · simp [hnone, hmade, Except.map]
  · simp [hsome, hfails, Except.map]

/-- A job compiles when none of its operations fails. -/
theorem exists_compile_iff {ops : List (Operation α)} :
    (∃ program, compile settings stock ops = .ok program) ↔
      ops.findSome? (planFailure? settings stock) = none := by
  constructor
  · rintro ⟨program, hprogram⟩
    cases hfound : ops.findSome? (planFailure? settings stock) with
    | none => rfl
    | some error =>
      rw [compile_eq_error_iff.mpr hfound] at hprogram
      cases hprogram
  · intro hnone
    cases hcompile : compile settings stock ops with
    | ok program => exact ⟨program, rfl⟩
    | error error =>
      rw [compile_eq_error_iff.mp hcompile] at hnone
      cases hnone

/-! ## What a block depends on -/

/-- What is printed for the speed of the spindle. -/
def spindleWord (op : Operation α) : String := "S" ++ toString (Scalar.nearest op.spindleSpeed)

/-- The tool and the spindle word of the last machined operation among some. -/
def lastWords (stock : Stock α) (ops : List (Operation α)) : Option (Tool × String) :=
  (ops.filter (isMachined stock)).getLast?.map fun op => (op.tool, spindleWord op)

/-- The tool and the speed that operations leave behind them. -/
private def spindleBehind (stock : Stock α) (spindle : Option (Tool × Int))
    (ops : List (Operation α)) : Option (Tool × Int) :=
  ((ops.filter (isMachined stock)).getLast?.map fun op =>
    (op.tool, Scalar.nearest op.spindleSpeed)).or spindle

private theorem spindleBehind_cons (spindle : Option (Tool × Int)) (op : Operation α)
    (ops : List (Operation α)) :
    spindleBehind stock spindle (op :: ops) =
      spindleBehind stock
        (if isMachined stock op then some (op.tool, Scalar.nearest op.spindleSpeed) else spindle)
        ops := by
  cases hmachined : isMachined stock op with
  | false => simp [spindleBehind, hmachined]
  | true =>
    cases hlast : (ops.filter (isMachined stock)).getLast? with
    | none =>
      have hnil : ops.filter (isMachined stock) = [] := List.getLast?_eq_none_iff.mp hlast
      simp only [spindleBehind, List.filter_cons_of_pos hmachined, hnil]
      rfl
    | some last =>
      simp only [spindleBehind, List.filter_cons_of_pos hmachined, List.getLast?_cons, hlast]
      rfl

/-- Equal words mean equal tools and speeds, since different speeds are printed differently. -/
private theorem spindleBehind_of_lastWords {ops ops' : List (Operation α)}
    (h : lastWords stock ops = lastWords stock ops') :
    spindleBehind stock none ops = spindleBehind stock none ops' := by
  -- the printed speed tells the number that it is of
  have hword {speed speed' : Int} (heq : "S" ++ toString speed = "S" ++ toString speed') :
      speed = speed' := by
    have hprinted : speed.repr = speed'.repr := by simpa [Int.toString_eq_repr] using heq
    exact Int.repr_injective hprinted
  unfold lastWords at h
  unfold spindleBehind
  -- the words are there for both programs or for neither
  cases hlast : (ops.filter (isMachined stock)).getLast? with
  | none =>
    cases hlast' : (ops'.filter (isMachined stock)).getLast? with
    | none => rfl
    | some last' =>
      rw [hlast, hlast'] at h
      cases h
  | some last =>
    cases hlast' : (ops'.filter (isMachined stock)).getLast? with
    | none =>
      rw [hlast, hlast'] at h
      cases h
    | some last' =>
      rw [hlast, hlast'] at h
      obtain ⟨htool, hspeed⟩ := Prod.mk.inj (Option.some.inj h)
      simp only [Option.map_some, htool, hword hspeed]

/-- With another number, and with the same tool and speed left over before it, the block of an
operation is the same behind its first line. -/
theorem block_renumbered {carried carried' : Carried α} {index : Nat} {op : Operation α}
    {body : List Line} (h : block settings stock carried index op = .ok body)
    (hspindle : carried.spindle = carried'.spindle) (index' : Nat) :
    ∃ rest, body = .opening index op.kind :: rest ∧
      block settings stock carried' index' op = .ok (.opening index' op.kind :: rest) := by
  cases blockForm_of_block h with
  | unknown hkind => exact ⟨_, rfl, block_of_unknown hkind _ _⟩
  | skipped hkind hreason =>
    refine ⟨_, rfl, ?_⟩
    rw [block_of_known hkind, hreason]
  | machined hkind hreason hplan =>
    refine ⟨_, rfl, ?_⟩
    rw [block_of_known hkind, hreason, hplan, ← hspindle]
    simp [Except.map]

/-- The block at a place is compiled with the tool and the speed that the operations before it leave
behind. -/
theorem Chained.inherits {carried last : Carried α} {index : Nat} {ops : List (Operation α)}
    {bodies : List (List Line)} (h : Chained settings stock carried index ops bodies last) {i : Nat}
    {op : Operation α} (hop : ops[i]? = some op) :
    ∃ before body, bodies[i]? = some body ∧
      block settings stock before (index + i) op = .ok body ∧
      before.spindle = spindleBehind stock carried.spindle (ops.take i) := by
  -- along the chain: what the first block leaves is what the others begin with
  induction h generalizing i with
  | nil => cases hop
  | @cons carried last index first ops body bodies hbody _ ih =>
    cases i with
    | zero =>
      cases hop
      exact ⟨carried, body, rfl, hbody, by simp [spindleBehind]⟩
    | succ i =>
      obtain ⟨before, found, hfound, hblock, hspindle⟩ := ih hop
      refine ⟨before, found, hfound, ?_, ?_⟩
      · rw [← Nat.add_assoc, Nat.add_right_comm]
        exact hblock
      · rw [hspindle, spindle_leaves, List.take_succ_cons, spindleBehind_cons]

/-- The block at the place of an operation has one of the forms of its blocks. -/
theorem Chained.blockForm {carried last : Carried α} {index : Nat} {ops : List (Operation α)}
    {bodies : List (List Line)} (h : Chained settings stock carried index ops bodies last) {i : Nat}
    {op : Operation α} (hop : ops[i]? = some op) {body : List Line}
    (hbody : bodies[i]? = some body) :
    ∃ before, BlockForm settings stock before (index + i) op body := by
  obtain ⟨before, other, hother, hblock, -⟩ := h.inherits hop
  obtain rfl := Option.some.inj (hbody.symm.trans hother)
  exact ⟨before, blockForm_of_block hblock⟩

/-! ## Operations behind others -/

/-- Chained blocks fall into those of the first operations and those of the others. -/
theorem Chained.exists_append {carried last : Carried α} {index : Nat}
    {front rest : List (Operation α)} {bodies : List (List Line)}
    (h : Chained settings stock carried index (front ++ rest) bodies last) :
    ∃ first second middle, bodies = first ++ second ∧
      Chained settings stock carried index front first middle := by
  induction front generalizing carried index bodies with
  | nil => exact ⟨[], bodies, carried, rfl, .nil _ _⟩
  | cons op front ih =>
    cases h with
    | @cons _ _ _ _ _ body bodies hbody hrest =>
      obtain ⟨first, second, middle, rfl, hfirst⟩ := ih hrest
      exact ⟨body :: first, second, middle, rfl, .cons hbody hfirst⟩

/-- The blocks of operations are determined by them and by what is left over before them. -/
theorem Chained.unique {carried last last' : Carried α} {index : Nat} {ops : List (Operation α)}
    {bodies bodies' : List (List Line)} (h : Chained settings stock carried index ops bodies last)
    (h' : Chained settings stock carried index ops bodies' last') : bodies = bodies' := by
  induction h generalizing bodies' last' with
  | nil =>
    cases h'
    rfl
  | cons hbody _ ih =>
    cases h' with
    | cons hbody' hrest' =>
      rw [hbody] at hbody'
      rw [Except.ok.inj hbody', ih hrest']

/-- Operations that are not machined leave no words behind them. -/
private theorem lastWords_idle (stock : Stock α) (before : List (Operation α))
    {idle : List (Operation α)} (h : ∀ op ∈ idle, isMachined stock op = false)
    (between : List (Operation α)) :
    lastWords stock (before ++ (idle ++ between)) = lastWords stock (before ++ between) := by
  have hnone : idle.filter (isMachined stock) = [] := by
    rw [List.filter_eq_nil_iff]
    intro op hop
    simp [h op hop]
  simp [lastWords, List.filter_append, hnone]

/-! ## The blocks of a job -/

/-- How the blocks of the jobs with some settings and a stock depend on the operations. -/
structure StandAlone (settings : Settings α) (stock : Stock α) : Prop where
  /-- With more operations at the end, a job that does not compile fails for the same reason. -/
  error_append : ∀ front rest error, compile settings stock front = .error error →
    compile settings stock (front ++ rest) = .error error
  /-- More operations at the end only add lines behind the blocks of the others. -/
  body_append : ∀ front rest program, compile settings stock (front ++ rest) = .ok program →
    ∃ shorter, compile settings stock front = .ok shorter ∧ bodyOf shorter <+: bodyOf program
  /-- The body of a program is made of one block for each operation, in their order.  A block begins
  with the remark that opens it, and no other line of it is such a remark. -/
  parted : ∀ ops program, compile settings stock ops = .ok program →
    (blocksOf program).flatten = bodyOf program ∧ (blocksOf program).length = ops.length ∧
      ∀ (i : Nat) (op : Operation α) (block : List Line), ops[i]? = some op →
        (blocksOf program)[i]? = some block →
          ∃ first rest, block = first :: rest ∧ first = .opening (i + 1) op.kind ∧
            first.text = s!"; --- OP {i + 1}: {op.kind.name} ---" ∧
            ∀ line ∈ rest, line.isOpening = false
  /-- Behind its first line, the block of an operation is the same wherever the last machined
  operation before it has the same tool and spindle word. -/
  inherits : ∀ ops ops' program program', compile settings stock ops = .ok program →
    compile settings stock ops' = .ok program' → ∀ (i i' : Nat) (op : Operation α),
      ops[i]? = some op → ops'[i']? = some op →
        lastWords stock (ops.take i) = lastWords stock (ops'.take i') →
          ∃ rest, (blocksOf program)[i]? = some (.opening (i + 1) op.kind :: rest) ∧
            (blocksOf program')[i']? = some (.opening (i' + 1) op.kind :: rest)
  /-- Operations that are not machined can be put in or taken out: the job still compiles or fails
  as before, the blocks in front of them stay, and those behind them only change their numbers. -/
  idle : ∀ before idle after, (∀ op ∈ idle, isMachined stock op = false) →
    (∀ error, compile settings stock (before ++ after) = .error error ↔
        compile settings stock (before ++ (idle ++ after)) = .error error) ∧
      ∀ program longer, compile settings stock (before ++ after) = .ok program →
        compile settings stock (before ++ (idle ++ after)) = .ok longer →
          (∀ i < before.length, (blocksOf longer)[i]? = (blocksOf program)[i]?) ∧
            ∀ (i : Nat) (op : Operation α), after[i]? = some op →
              ∃ rest, (blocksOf program)[before.length + i]? =
                  some (.opening (before.length + i + 1) op.kind :: rest) ∧
                (blocksOf longer)[before.length + (idle.length + i)]? =
                  some (.opening (before.length + (idle.length + i) + 1) op.kind :: rest)

private theorem error_append (settings : Settings α) (stock : Stock α)
    (front rest : List (Operation α)) {error : ArithmeticError}
    (h : compile settings stock front = .error error) :
    compile settings stock (front ++ rest) = .error error := by
  rw [compile_eq_error_iff] at h ⊢
  rw [List.findSome?_append, h]
  rfl

private theorem body_append (settings : Settings α) (stock : Stock α)
    {front rest : List (Operation α)} {program : List Line}
    (h : compile settings stock (front ++ rest) = .ok program) :
    ∃ shorter, compile settings stock front = .ok shorter ∧ bodyOf shorter <+: bodyOf program := by
  have hfront : front.findSome? (planFailure? settings stock) = none := by
    have hall := exists_compile_iff.mp ⟨program, h⟩
    rw [List.findSome?_append] at hall
    exact (Option.or_eq_none_iff.mp hall).1
  obtain ⟨shorter, hshorter⟩ := exists_compile_iff.mpr hfront
  obtain ⟨bodies, last, hchained, hdivided⟩ := exists_divided_of_compile h
  obtain ⟨bodies', last', hchained', hdivided'⟩ := exists_divided_of_compile hshorter
  obtain ⟨first, second, middle, rfl, hfirst⟩ := hchained.exists_append
  refine ⟨shorter, hshorter, ?_⟩
  rw [hdivided.bodyOf_eq, hdivided'.bodyOf_eq, hchained'.unique hfirst, List.flatten_append]
  exact List.prefix_append _ _

private theorem parted {ops : List (Operation α)} {program : List Line}
    (h : compile settings stock ops = .ok program) :
    (blocksOf program).flatten = bodyOf program ∧ (blocksOf program).length = ops.length ∧
      ∀ (i : Nat) (op : Operation α) (block : List Line), ops[i]? = some op →
        (blocksOf program)[i]? = some block →
          ∃ first rest, block = first :: rest ∧ first = .opening (i + 1) op.kind ∧
            first.text = s!"; --- OP {i + 1}: {op.kind.name} ---" ∧
            ∀ line ∈ rest, line.isOpening = false := by
  obtain ⟨bodies, last, hchained, hdivided⟩ := exists_divided_of_compile h
  rw [hdivided.blocksOf_eq]
  refine ⟨hdivided.bodyOf_eq.symm, hdivided.length_eq, ?_⟩
  intro i op body hop hbody
  obtain ⟨rest, rfl, hrest⟩ := hdivided.body_eq i op body hop hbody
  exact ⟨_, rest, rfl, rfl, rfl, fun line hline => Line.isOpening_of_isInner (hrest line hline)⟩

private theorem inherits {ops ops' : List (Operation α)} {program program' : List Line}
    (h : compile settings stock ops = .ok program)
    (h' : compile settings stock ops' = .ok program') {i i' : Nat} {op : Operation α}
    (hop : ops[i]? = some op) (hop' : ops'[i']? = some op)
    (hwords : lastWords stock (ops.take i) = lastWords stock (ops'.take i')) :
    ∃ rest, (blocksOf program)[i]? = some (.opening (i + 1) op.kind :: rest) ∧
      (blocksOf program')[i']? = some (.opening (i' + 1) op.kind :: rest) := by
  obtain ⟨bodies, last, hchained, hdivided⟩ := exists_divided_of_compile h
  obtain ⟨bodies', last', hchained', hdivided'⟩ := exists_divided_of_compile h'
  obtain ⟨before, body, hbody, hblock, hspindle⟩ := hchained.inherits hop
  obtain ⟨before', body', hbody', hblock', hspindle'⟩ := hchained'.inherits hop'
  -- both blocks are compiled with the same tool and speed left over
  have hsame : before.spindle = before'.spindle := by
    rw [hspindle, hspindle']
    exact spindleBehind_of_lastWords hwords
  obtain ⟨rest, rfl, hrest⟩ := block_renumbered hblock hsame (1 + i')
  obtain rfl := Except.ok.inj (hblock'.symm.trans hrest)
  refine ⟨rest, ?_, ?_⟩
  · rw [hdivided.blocksOf_eq, hbody, Nat.add_comm]
  · rw [hdivided'.blocksOf_eq, hbody', Nat.add_comm]

/-- **Blocks stand alone.**  With all settings and every stock, the blocks of a job are made each
for itself: more operations at the end only add lines, there is one block for each operation, a
block depends on the earlier operations only through the tool and the spindle word of the last
machined one among them, and operations that are not machined change nothing in the other blocks but
numbers. -/
theorem blocks_stand_alone (settings : Settings α) (stock : Stock α) :
    StandAlone settings stock := by
  refine ⟨fun front rest _ => error_append settings stock front rest,
    fun _ _ _ => body_append settings stock, fun _ _ => parted,
    fun _ _ _ _ h h' _ _ _ => inherits h h', ?_⟩
  intro before idle after hidle
  -- operations that are not machined do not fail
  have hfailure : (before ++ (idle ++ after)).findSome? (planFailure? settings stock) =
      (before ++ after).findSome? (planFailure? settings stock) := by
    have hnone : idle.findSome? (planFailure? settings stock) = none := by
      rw [List.findSome?_eq_none_iff]
      intro op hop
      simp [planFailure?, hidle op hop]
    simp [List.findSome?_append, hnone]
  refine ⟨fun error => by rw [compile_eq_error_iff, compile_eq_error_iff, hfailure], ?_⟩
  intro program longer hprogram hlonger
  refine ⟨?_, ?_⟩
  · intro i hi
    have htake : (before ++ after).take i = (before ++ (idle ++ after)).take i := by
      rw [List.take_append_of_le_length (Nat.le_of_lt hi),
        List.take_append_of_le_length (Nat.le_of_lt hi)]
    obtain ⟨rest, hblock, hblock'⟩ := inherits hprogram hlonger
      (List.getElem?_append_left hi ▸ List.getElem?_eq_getElem hi)
      (List.getElem?_append_left hi ▸ List.getElem?_eq_getElem hi)
      (congrArg (lastWords stock) htake)
    rw [hblock, hblock']
  · -- behind them, the operations before a block are the same but for those
    intro i op hop
    refine inherits hprogram hlonger ?_ ?_ ?_
    · rw [List.getElem?_append_right (Nat.le_add_right _ _), Nat.add_sub_cancel_left]
      exact hop
    · rw [List.getElem?_append_right (Nat.le_add_right _ _), Nat.add_sub_cancel_left,
        List.getElem?_append_right (Nat.le_add_right _ _), Nat.add_sub_cancel_left]
      exact hop
    · rw [List.take_length_add_append, List.take_length_add_append, List.take_length_add_append]
      exact (lastWords_idle stock before hidle _).symm

/-- The unknown operation between the holes of the sample job can be taken out: the block of the
second hole only changes its number. -/
theorem blocks_stand_alone_in_sampleJob :
    ∃ program shorter rest,
      compile sampleSettings sampleStock sampleJob = .ok program ∧
        compile sampleSettings sampleStock [sampleHole 10 20, sampleHole 50 28] = .ok shorter ∧
        (blocksOf shorter)[1]? = some (.opening 2 .drill :: rest) ∧
        (blocksOf program)[2]? = some (.opening 3 .drill :: rest) := by
  -- an unknown operation between the two holes is not machined
  have hidle : ∀ op ∈ [{ sampleHole 30 20 with feature := Feature.unknown }],
      isMachined sampleStock op = false := List.forall_mem_singleton.mpr rfl
  obtain ⟨hfails, hblocks⟩ := (blocks_stand_alone sampleSettings sampleStock).idle
    [sampleHole 10 20] _ [sampleHole 50 28] hidle
  obtain ⟨program, hprogram⟩ := exists_compile_sampleJob
  cases hshorter : compile sampleSettings sampleStock [sampleHole 10 20, sampleHole 50 28] with
  | error error =>
    have hfailed := (hfails error).mp hshorter
    exact absurd (hprogram.symm.trans hfailed) (by simp)
  | ok shorter =>
    obtain ⟨rest, hblock, hblock'⟩ := (hblocks shorter program hshorter hprogram).2 0 _ rfl
    exact ⟨program, shorter, rest, hprogram, rfl, hblock, hblock'⟩

end Machining.Program
