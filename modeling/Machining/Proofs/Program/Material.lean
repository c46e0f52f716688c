import Machining.Proofs.Program.Layout
import Machining.Proofs.Result
import Machining.Proofs.Text.Search

/-!
# What the material of a stock does to a program

The material is free text, and it stands in one place of a program: at the end of the remark that
describes the stock.  No move, no word and no other remark depends on it.  A remark ends with its
line, though, and the material is written as it is.  What stands in it behind a line break is
therefore a line of its own, which a machine reads like any other.

## What is shown

`executableLines_render` says which lines of a program a machine does not take for remarks: those in
front of the material, those that the material itself brings, and those behind it.  Two materials
make the same executable lines exactly when they bring the same ones, and a material without a line
break brings none (`executableLines_of_materials`).
-/

namespace Machining.Program

open Machining.Numeric Machining.Job Machining.Text

/-! ## Lines of a text -/

/-- The lines among some that are no remarks. -/
def noRemarks (lines : List (List Char)) : List String :=
  (lines.map String.ofList).filter fun line => !isRemark line

/-- The lines of a text, parted at its line breaks, that are no remarks. -/
def executableLines (text : String) : List String := noRemarks (text.toList.splitOn '\n')

/-- The executable lines that a text brings where it is written at the end of a remark: the ones
behind its first line break. -/
def broughtLines (text : String) : List String := noRemarks (text.toList.splitOn '\n').tail

theorem noRemarks_append (first second : List (List Char)) :
    noRemarks (first ++ second) = noRemarks first ++ noRemarks second := by
  simp [noRemarks]

/-- A text without a line break brings nothing. -/
theorem broughtLines_eq_nil {text : String} (h : '\n' ∉ text.toList) : broughtLines text = [] := by
  rw [broughtLines, List.splitOn_eq_singleton h]
  rfl

/-- A remark that goes on in a text is followed by what the text brings. -/
private theorem noRemarks_remark {remark text : String} (hremark : isRemark remark = true)
    (hone : '\n' ∉ remark.toList) :
    noRemarks ((remark ++ text).toList.splitOn '\n') = broughtLines text := by
  obtain ⟨first, hsplit⟩ := splitOn_append_of_notMem hone text.toList
  have hfirst : isRemark (remark ++ String.ofList first) = true := isRemark_append _ hremark
  rw [String.toList_append, hsplit, broughtLines]
  simp [noRemarks, hfirst]

/-! ## The remark about the stock -/

/-- The remark about the stock as far as the material. -/
def stockRemark (shape : StockShape) (size : StockSize) (height : Fixed) : String :=
  "; STOCK: " ++ shape.name ++ " " ++ size.text ++ " H" ++ height.text ++ " "

/-- The remark about the stock is one, and it is a single line. -/
private theorem stockRemark_spec (shape : StockShape) (size : StockSize) (height : Fixed) :
    isRemark (stockRemark shape size height) = true ∧
      '\n' ∉ (stockRemark shape size height).toList := by
  have hnumber := isForeign_lineBreak.notMem_text
  refine ⟨by simp [stockRemark, isRemark], ?_⟩
  have hsize : '\n' ∉ size.text.toList := by
    cases size with
    | diameter d => simp [StockSize.text, hnumber]
    | widthLength w l => simp [StockSize.text, hnumber]
  have hshape : '\n' ∉ shape.name.toList := by
    cases shape <;> decide
  simp [stockRemark, hnumber, hsize, hshape]

/-- A program brings its own lines and those of the material in the remark about the stock. -/
theorem executableLines_render (title : String) (shape : StockShape) (size : StockSize)
    (height : Fixed) (rest : List Line) (material : String) :
    executableLines (render (.title title :: .stock shape size height material :: rest)) =
      executableLines ("; " ++ title) ++ broughtLines material ++
        executableLines (render rest) := by
  obtain ⟨hremark, hone⟩ := stockRemark_spec shape size height
  have htext : (render (.title title :: .stock shape size height material :: rest)).toList =
      ("; " ++ title).toList ++ '\n' ::
        ((stockRemark shape size height ++ material).toList ++ '\n' :: (render rest).toList) := by
    unfold render
    simp only [List.map_cons, String.join_cons]
    unfold Line.text
    simp [stockRemark]
  rw [executableLines, htext, List.splitOn_append_cons_self, List.splitOn_append_cons_self,
    noRemarks_append, noRemarks_append, noRemarks_remark hremark hone, List.append_assoc]
  rfl

/-! ## Everything else -/

section

variable {α : Type} [Scalar α] (settings : Settings α) (stock : Stock α) (material : String)

/-- Blocks do not depend on the material. -/
theorem blocks_material (carried : Carried α) (index : Nat) (ops : List (Operation α)) :
    blocks settings { stock with material } carried index ops =
      blocks settings stock carried index ops := by
  have hblock (carried : Carried α) (index : Nat) (op : Operation α) :
      block settings { stock with material } carried index op =
        block settings stock carried index op := rfl
  have hleaves (carried : Carried α) (op : Operation α) :
      leaves settings { stock with material } carried op =
        leaves settings stock carried op := rfl
  induction ops generalizing carried index with
  | nil => rfl
  | cons op rest ih => simp only [blocks, hblock, hleaves, ih]

/-- What stands in a program behind the remark about the stock. -/
def behindStock (ops : List (Operation α)) : Except ArithmeticError (List Line) :=
  (blocks settings stock (start settings stock) 1 ops).map fun (lines, carried) =>
    .operationCount ops.length :: .modes :: .workOffset settings.workOffset ::
      (lines ++ footer settings carried)

/-- A program is made of what the material does not touch, with the remark about the stock in
front. -/
theorem compile_material (ops : List (Operation α)) :
    compile settings { stock with material } ops =
      (behindStock settings stock ops).map fun rest =>
        .title settings.programName ::
          .stock stock.shape (stockSize settings stock) (settings.coordinate stock.height)
            material :: rest := by
  unfold compile behindStock
  rw [blocks_material]
  change (blocks settings stock (start settings stock) 1 ops).map _ = _
  cases blocks settings stock (start settings stock) 1 ops with
  | error error => rfl
  | ok made => rfl

/-- Whether a job compiles does not depend on the material, and of the executable lines only those
that the material brings do. -/
theorem exists_executableLines (ops : List (Operation α)) :
    (∃ error, ∀ material, compile settings { stock with material } ops = .error error) ∨
      ∃ front back, ∀ material, ∃ program,
        compile settings { stock with material } ops = .ok program ∧
          executableLines (render program) = front ++ broughtLines material ++ back := by
  cases hrest : behindStock settings stock ops with
  | error error =>
    refine Or.inl ⟨error, fun material => ?_⟩
    rw [compile_material, hrest]
    rfl
  | ok rest =>
    refine Or.inr ⟨executableLines ("; " ++ settings.programName), executableLines (render rest),
      fun material => ?_⟩
    rw [compile_material, hrest]
    exact ⟨_, rfl, executableLines_render ..⟩

end

/-- **Materials make the same executable lines when they bring the same.**  Of two stocks that
differ only in their materials, either none compiles or both do.  Then their programs have the same
executable lines exactly when the materials bring the same ones behind their first line breaks; so
they always do when the materials are single lines. -/
theorem executableLines_of_materials {α : Type} [Scalar α] (settings : Settings α)
    (stock : Stock α) (ops : List (Operation α)) (first second : String) :
    (∃ error, compile settings { stock with material := first } ops = .error error ∧
        compile settings { stock with material := second } ops = .error error) ∨
      ∃ program program',
        compile settings { stock with material := first } ops = .ok program ∧
          compile settings { stock with material := second } ops = .ok program' ∧
          (executableLines (render program) = executableLines (render program') ↔
            broughtLines first = broughtLines second) ∧
          ('\n' ∉ first.toList → '\n' ∉ second.toList →
            executableLines (render program) = executableLines (render program')) := by
  rcases exists_executableLines settings stock ops with ⟨error, hfails⟩ | ⟨front, back, hlines⟩
  · exact Or.inl ⟨error, hfails first, hfails second⟩
  · -- what stands around the materials is the same in both programs
    obtain ⟨program, hprogram, hfirst⟩ := hlines first
    obtain ⟨program', hprogram', hsecond⟩ := hlines second
    refine Or.inr ⟨program, program', hprogram, hprogram', ?_, ?_⟩
    · rw [hfirst, hsecond, List.append_cancel_right_eq, List.append_cancel_left_eq]
    · intro hone hone'
      rw [hfirst, hsecond, broughtLines_eq_nil hone, broughtLines_eq_nil hone']

/-- A material with a line break in it puts a move of its own into the program. -/
theorem material_moves_the_tool :
    ∃ program program',
      compile sampleSettings { sampleStock with material := "Aluminum" } sampleJob = .ok program ∧
        compile sampleSettings { sampleStock with material := "Aluminum\nG0 Z-50" } sampleJob =
          .ok program' ∧
        executableLines (render program) ≠ executableLines (render program') ∧
        "G0 Z-50" ∈ executableLines (render program') := by
  have hbrought : broughtLines "Aluminum\nG0 Z-50" = ["G0 Z-50"] := by decide
  have hnothing : broughtLines "Aluminum" = [] := by decide
  -- the rest of the program is the same for both materials
  rcases exists_executableLines sampleSettings sampleStock sampleJob with
    ⟨error, hfails⟩ | ⟨front, back, hlines⟩
  · obtain ⟨program, hprogram⟩ := exists_compile_sampleJob
    have hfail := hfails sampleStock.material
    rw [hprogram] at hfail
    cases hfail
  · obtain ⟨program, hprogram, hfirst⟩ := hlines "Aluminum"
    obtain ⟨program', hprogram', hsecond⟩ := hlines "Aluminum\nG0 Z-50"
    refine ⟨program, program', hprogram, hprogram', ?_, ?_⟩
    · rw [hfirst, hsecond, hnothing, hbrought]
      -- one program is a line longer
      intro heq
      have hlength := congrArg List.length heq
      simp at hlength
    · rw [hsecond, hbrought]
      simp

end Machining.Program
