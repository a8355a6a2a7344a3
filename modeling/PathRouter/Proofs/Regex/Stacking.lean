import PathRouter.Proofs.Regex.Captures
import PathRouter.Proofs.Regex.Places
import PathRouter.Proofs.Regex.Soundness

/-!
# Brackets inside and alone

A text may be read twice, alone and inside of an outer reader.  Numbers and
names of groups may mean something else inside, but as long as both readers
succeed they open and close the same brackets, under the same flags.  The
brackets that are open alone are open inside on top of those of the outer
reader, and what is captured in them are groups that were opened there.

## Main definitions

* `Between`: indices of groups that were opened one after another.
* `Reader.Stacks`: the same brackets are open inside as alone.
* `Reader.Mirrors`: a reader inside is where a reader alone is.

## Main statements

* `Reader.Mirrors.openFrame`, `Reader.Mirrors.openGroup` and
  `Reader.Mirrors.leave`: brackets are opened and closed on both sides.
-/

namespace PathRouter
namespace Regex

/-- All indices belong to groups behind the first `low` and among the first
`high`. -/
def Between (low high : Nat) (indices : List Nat) : Prop :=
  ∀ index ∈ indices, low < index ∧ index ≤ high

namespace Between

variable {low high : Nat} {indices others : List Nat}

theorem nil : Between low high [] := nofun

theorem of_subset
    (between : Between low high others)
    (among : indices ⊆ others) :
    Between low high indices := fun index member =>
  between index (among member)

theorem append
    (first : Between low high indices)
    (second : Between low high others) :
    Between low high (indices ++ others) :=
  List.forall_mem_append.mpr ⟨first, second⟩

theorem mono
    {higher : Nat}
    (between : Between low high indices)
    (more : high ≤ higher) :
    Between low higher indices := by
  intro index member
  obtain ⟨above, below⟩ := between index member
  exact ⟨above, Nat.le_trans below more⟩

end Between

/-! ## What frames capture -/

/-- The group that an opening bracket captures. -/
def Opener.recorded : Opener → List Nat
  | capture index => [index]
  | _ => []

namespace Frame

/-- The groups that the contents of a frame capture. -/
def recorded (frame : Frame) : List Nat :=
  frame.items.flatMap Regex.recorded ++ frame.branches.flatMap Regex.recorded

variable (frame : Frame)

theorem recorded_branch_subset :
    frame.branch.recorded ⊆ frame.items.flatMap Regex.recorded := by
  intro index member
  rw [branch, recorded_sequence] at member
  obtain ⟨item, present, inside⟩ := List.mem_flatMap.mp member
  exact List.mem_flatMap.mpr ⟨item, List.mem_reverse.mp present, inside⟩

theorem recorded_body_subset : frame.body.recorded ⊆ frame.recorded := by
  intro index member
  rw [body, recorded_alternation] at member
  obtain ⟨branch, present, inside⟩ := List.mem_flatMap.mp member
  rcases List.mem_cons.mp (List.mem_reverse.mp present) with last | earlier
  · exact List.mem_append_left _ (frame.recorded_branch_subset (last ▸ inside))
  · exact List.mem_append_right _
      (List.mem_flatMap.mpr ⟨branch, earlier, inside⟩)

theorem recorded_push (item : Regex) :
    (frame.push item).recorded = item.recorded ++ frame.recorded := by
  rw [recorded, push, List.flatMap_cons, List.append_assoc]
  rfl

theorem recorded_nextBranch_subset :
    frame.nextBranch.recorded ⊆ frame.recorded := by
  rw [recorded, nextBranch, List.flatMap_nil, List.nil_append,
    List.flatMap_cons]
  refine List.append_subset.mpr ⟨?_, List.subset_append_right ..⟩
  exact List.Subset.trans frame.recorded_branch_subset
    (List.subset_append_left ..)

end Frame

namespace Reader

/-- A closed bracket captures what its bracket and its contents capture. -/
theorem recorded_closedFrame_subset (reader : Reader) (frame : Frame) :
    (reader.closedFrame frame).recorded ⊆
      frame.opener.recorded ++ frame.recorded := by
  have body := frame.recorded_body_subset
  have branch : frame.branch.recorded ⊆ frame.recorded :=
    List.Subset.trans frame.recorded_branch_subset
      (List.subset_append_left ..)
  rcases frame with ⟨opener, start, flags, branches, items⟩
  cases opener with
  | whole | plain | atomic | ahead _ | behind _ _ => exact body
  | capture index => exact List.cons_subset_cons index body
  | ifGroup index =>
      cases branches with
      | nil => exact List.append_subset.mpr ⟨branch, List.nil_subset _⟩
      | cons yes others =>
          refine List.append_subset.mpr ⟨?_, branch⟩
          exact List.Subset.trans (List.subset_append_left ..)
            (List.subset_append_right ..)

@[simp] theorem position_leaveFrame (reader : Reader) (frame : Frame) :
    (reader.leaveFrame frame).position = reader.position := by
  rw [leaveFrame]
  split <;> rfl

/-! ## Stacks of brackets -/

/-- The brackets that are open alone, given by the innermost frame and those
around it, are open inside on top of the brackets of the outer reader, under the
same flags.  All that they capture are groups behind those of the outer
reader. -/
inductive Stacks (outer : Reader) (count : Nat) :
    Frame → List Frame → Frame → List Frame → Prop
  | bottom
      {own frame : Frame}
      (opener : frame.opener = outer.top.opener)
      (outerFlags : frame.flags = outer.top.flags)
      (flags : frame.flags = own.flags)
      (recorded : Between outer.groups.size count frame.recorded) :
      Stacks outer count own [] frame outer.below
  | atop
      {own next frame other : Frame}
      {rest others : List Frame}
      (flags : frame.flags = own.flags)
      (opened : Between outer.groups.size count frame.opener.recorded)
      (recorded : Between outer.groups.size count frame.recorded)
      (around : Stacks outer count next rest other others) :
      Stacks outer count own (next :: rest) frame (other :: others)

namespace Stacks

variable
  {outer : Reader}
  {count : Nat}
  {own frame : Frame}
  {rest others : List Frame}

theorem mono
    {more : Nat}
    (nested : Stacks outer count own rest frame others)
    (grown : count ≤ more) :
    Stacks outer more own rest frame others := by
  induction nested with
  | bottom opener outerFlags flags recorded =>
      exact .bottom opener outerFlags flags (recorded.mono grown)
  | atop flags opened recorded _ inductionHypothesis =>
      exact .atop flags (opened.mono grown) (recorded.mono grown)
        inductionHypothesis

theorem flags
    (nested : Stacks outer count own rest frame others) :
    frame.flags = own.flags := by
  cases nested with
  | bottom _ _ flags _ => exact flags
  | atop flags _ _ _ => exact flags

theorem recorded
    (nested : Stacks outer count own rest frame others) :
    Between outer.groups.size count frame.recorded := by
  cases nested with
  | bottom _ _ _ recorded => exact recorded
  | atop _ _ recorded _ => exact recorded

/-- There is a bracket around what is read inside. -/
theorem others_ne_nil
    (nested : Stacks outer count own rest frame others)
    (surrounded : outer.below ≠ []) :
    others ≠ [] := by
  cases nested with
  | bottom _ _ _ _ => exact surrounded
  | atop _ _ _ _ => exact List.cons_ne_nil _ _

/-- The contents of the innermost frames may change. -/
theorem replace
    {ownNow frameNow : Frame}
    (nested : Stacks outer count own rest frame others)
    (ownFlags : ownNow.flags = own.flags)
    (opener : frameNow.opener = frame.opener)
    (flags : frameNow.flags = frame.flags)
    (recorded : Between outer.groups.size count frameNow.recorded) :
    Stacks outer count ownNow rest frameNow others := by
  cases nested with
  | bottom opened outerFlags same _ =>
      exact .bottom (opener.trans opened) (flags.trans outerFlags)
        (flags.trans (same.trans ownFlags.symm)) recorded
  | atop same opened _ around =>
      exact .atop (flags.trans (same.trans ownFlags.symm)) (opener ▸ opened)
        recorded around

end Stacks

/-! ## Two readers of a text -/

/-- A reader inside of an outer one is in the middle of what a reader alone is
in the middle of, with the same brackets open. -/
structure Mirrors (outer alone inside : Reader) : Prop where
  /-- The reader inside is behind the outer one. -/
  position : inside.position = outer.position + alone.position
  /-- Both are in the middle of the same. -/
  mode : inside.mode = alone.mode.move outer.position
  /-- Comments up to the end of the line need a flag. -/
  comment : inside.mode = .lineComment → inside.top.flags.verbose = true
  /-- Groups are opened behind those of the outer reader. -/
  grown : outer.groups.size ≤ inside.groups.size
  /-- There is a bracket around what is read inside. -/
  surrounded : outer.below ≠ []
  /-- The same brackets are open. -/
  nested : Stacks outer inside.groups.size alone.top alone.below inside.top
    inside.below

namespace Mirrors

variable {outer alone inside : Reader}

theorem flags
    (mirrors : outer.Mirrors alone inside) :
    inside.top.flags = alone.top.flags :=
  mirrors.nested.flags

theorem below_ne_nil
    (mirrors : outer.Mirrors alone inside) :
    inside.below ≠ [] :=
  mirrors.nested.others_ne_nil mirrors.surrounded

/-- Both readers may turn to something else, and the contents of the innermost
frames may change. -/
theorem withTop
    {mode other : Mode}
    {own frame : Frame}
    (mirrors : outer.Mirrors alone inside)
    (moved : other = mode.move outer.position)
    (comment : other = .lineComment → frame.flags.verbose = true)
    (ownFlags : own.flags = alone.top.flags)
    (opener : frame.opener = inside.top.opener)
    (flags : frame.flags = inside.top.flags)
    (recorded : Between outer.groups.size inside.groups.size
      frame.recorded) :
    outer.Mirrors { alone with mode, top := own }
      { inside with mode := other, top := frame } where
  position := mirrors.position
  mode := moved
  comment := comment
  grown := mirrors.grown
  surrounded := mirrors.surrounded
  nested := mirrors.nested.replace ownFlags opener flags recorded

theorem inMode
    {mode other : Mode}
    (mirrors : outer.Mirrors alone inside)
    (moved : other = mode.move outer.position)
    (comment : mode = .lineComment → alone.top.flags.verbose = true) :
    outer.Mirrors { alone with mode } { inside with mode := other } := by
  refine mirrors.withTop moved ?_ rfl rfl rfl mirrors.nested.recorded
  intro isComment
  cases mode with
  | lineComment =>
      rw [mirrors.flags]
      exact comment rfl
  | _ => cases moved.symm.trans isComment

/-- Both readers may turn to anything but a comment up to the end of the
line. -/
theorem turn
    {mode other : Mode}
    (mirrors : outer.Mirrors alone inside)
    (moved : other = mode.move outer.position)
    (noComment : decide (mode = .lineComment) = false) :
    outer.Mirrors { alone with mode } { inside with mode := other } := by
  refine mirrors.inMode moved fun isComment => ?_
  exact absurd isComment (of_decide_eq_false noComment)

theorem push
    {item other : Regex}
    (mirrors : outer.Mirrors alone inside)
    (recorded : Between outer.groups.size inside.groups.size
      other.recorded) :
    outer.Mirrors (alone.push item) (inside.push other) := by
  refine mirrors.withTop rfl nofun rfl rfl rfl ?_
  rw [Frame.recorded_push]
  exact recorded.append mirrors.nested.recorded

theorem pushLiteral
    (mirrors : outer.Mirrors alone inside)
    (c other : CodePoint) :
    outer.Mirrors (alone.pushLiteral c) (inside.pushLiteral other) :=
  mirrors.push .nil

theorem pushLiterals
    (mirrors : outer.Mirrors alone inside)
    (text : List Char) :
    outer.Mirrors (alone.pushLiterals text) (inside.pushLiterals text) := by
  induction text generalizing alone inside with
  | nil => exact mirrors
  | cons c rest inductionHypothesis =>
      exact inductionHypothesis (mirrors.pushLiteral c.toNat c.toNat)

/-- More groups may be opened on both sides, and what is counted behind a
place does not matter. -/
theorem withGroups
    {groups others : Array Group}
    {before? otherBefore? : Option Nat}
    (mirrors : outer.Mirrors alone inside)
    (more : inside.groups.size ≤ others.size) :
    outer.Mirrors
      { alone with groups, groupsBefore? := before? }
      { inside with groups := others, groupsBefore? := otherBefore? } where
  position := mirrors.position
  mode := mirrors.mode
  comment := mirrors.comment
  grown := Nat.le_trans mirrors.grown more
  surrounded := mirrors.surrounded
  nested := mirrors.nested.mono more

theorem openFrame
    {start otherStart : Nat}
    {opener other : Opener}
    {on off : List Flag}
    (mirrors : outer.Mirrors alone inside)
    (opened : Between outer.groups.size inside.groups.size
      other.recorded) :
    outer.Mirrors (alone.openFrame start opener on off)
      (inside.openFrame otherStart other on off) where
  position := mirrors.position
  mode := rfl
  comment := nofun
  grown := mirrors.grown
  surrounded := mirrors.surrounded
  nested := by
    refine .atop ?_ opened .nil mirrors.nested
    exact congrArg (Flags.change · on off) mirrors.flags

theorem openGroup
    {start otherStart : Nat}
    {name? otherName? : Option String}
    (mirrors : outer.Mirrors alone inside) :
    outer.Mirrors (alone.openGroup start name?)
      (inside.openGroup otherStart otherName?) := by
  have size : (inside.groups.push { name? := otherName? }).size =
      inside.groups.size + 1 := Array.size_push ..
  have grown := mirrors.grown
  refine (mirrors.withGroups (by omega)).openFrame ?_
  intro index member
  rw [List.mem_singleton.mp member]
  dsimp only
  omega

theorem openBehind
    {start otherStart : Nat}
    {positive : Bool}
    (mirrors : outer.Mirrors alone inside) :
    outer.Mirrors (alone.openBehind start positive)
      (inside.openBehind otherStart positive) :=
  (mirrors.withGroups (Nat.le_refl _)).openFrame .nil

/-- The bracket around a frame is closed on both sides. -/
theorem leave
    {own frame : Frame}
    {rest others : List Frame}
    (mirrors : outer.Mirrors alone inside)
    (around : alone.below = own :: rest)
    (aroundInside : inside.below = frame :: others) :
    outer.Mirrors
      ({ alone.leaveFrame alone.top with top := own, below := rest }.push
        (alone.closedFrame alone.top))
      ({ inside.leaveFrame inside.top with
        top := frame, below := others }.push
        (inside.closedFrame inside.top)) := by
  have nested := mirrors.nested
  have size := @size_leaveFrame inside inside.top
  rw [around, aroundInside] at nested
  cases nested with
  | atop _ opened recorded nestedAround =>
      have item := (opened.append recorded).of_subset
        (inside.recorded_closedFrame_subset inside.top)
      have among : Between outer.groups.size inside.groups.size
          (frame.push (inside.closedFrame inside.top)).recorded := by
        rw [Frame.recorded_push]
        exact item.append nestedAround.recorded
      constructor
      · change (inside.leaveFrame _).position =
          outer.position + (alone.leaveFrame _).position
        rw [position_leaveFrame, position_leaveFrame, mirrors.position]
      · rfl
      · nofun
      · exact size ▸ mirrors.grown
      · exact mirrors.surrounded
      · change Stacks outer (inside.leaveFrame inside.top).groups.size _ _ _ _
        rw [size]
        exact nestedAround.replace rfl rfl rfl among

end Mirrors
end Reader
end Regex
end PathRouter
