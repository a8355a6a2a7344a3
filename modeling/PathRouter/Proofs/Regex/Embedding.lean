import PathRouter.Proofs.Regex.Places
import PathRouter.Proofs.Regex.Renumbering

/-!
# Readers inside of readers

A text in the brackets of a group is read by the same machine as the text of a
whole expression, only at a later place, on top of other frames, and behind
other groups.  The state of the machine that reads the text alone is embedded
into the state that has just opened the group.  Its own groups are numbered
behind those that are there, and its bottom frame becomes the frame of the
group.

## Main definitions

* `Reader.embed`: the state of a reader inside of an outer one.

## Main statements

* `Reader.closedFrame_embed` and `Reader.leaveFrame_embed`: brackets inside are
  closed as they are alone.
* `Reader.indexOf?_embed`: names that the outer reader does not know are found
  where they are alone.
-/

namespace PathRouter
namespace Regex

namespace Opener

/-- The groups that an opening bracket refers to. -/
def indices : Opener → List Nat
  | capture index | ifGroup index => [index]
  | _ => []

/-- An opening bracket behind `offset` groups, the last of which is open and
surrounds the whole expression. -/
def shift (offset : Nat) : Opener → Opener
  | whole => capture offset
  | capture index => capture (offset + index)
  | ifGroup index => ifGroup (offset + index)
  | opener => opener

end Opener

namespace Frame

/-- The groups that a frame refers to. -/
def indices (frame : Frame) : List Nat :=
  frame.opener.indices ++
    (frame.branches.flatMap Regex.indices ++
      frame.items.flatMap Regex.indices)

/-- A frame of a reader inside of an outer one. -/
def embed (outer : Reader) (frame : Frame) : Frame where
  opener := frame.opener.shift outer.groups.size
  start :=
    if frame.opener = .whole then outer.top.start
    else outer.position + frame.start
  flags := frame.flags
  branches := frame.branches.map (shift outer.groups.size)
  items := frame.items.map (shift outer.groups.size)

variable (outer : Reader) (frame : Frame)

theorem branch_embed :
    (frame.embed outer).branch = frame.branch.shift outer.groups.size := by
  rw [branch, branch, embed, ← List.map_reverse, sequence_shift]

theorem body_embed :
    (frame.embed outer).body = frame.body.shift outer.groups.size := by
  rw [body, body, branch_embed, ← alternation_shift, List.map_reverse]
  rfl

theorem nextBranch_embed :
    (frame.embed outer).nextBranch = frame.nextBranch.embed outer := by
  rw [nextBranch, branch_embed]
  rfl

theorem isFullChoice_embed :
    (frame.embed outer).isFullChoice = frame.isFullChoice := by
  rcases frame with ⟨opener, start, flags, branches, items⟩
  cases opener <;> try rfl
  cases branches <;> rfl

theorem indices_branch : frame.branch.indices ⊆ frame.indices := by
  intro index member
  rw [branch, indices_sequence] at member
  obtain ⟨item, present, inside⟩ := List.mem_flatMap.mp member
  refine List.mem_append_right _ (List.mem_append_right _ ?_)
  exact List.mem_flatMap.mpr ⟨item, List.mem_reverse.mp present, inside⟩

theorem indices_body : frame.body.indices ⊆ frame.indices := by
  intro index member
  rw [body, indices_alternation] at member
  obtain ⟨branch, present, inside⟩ := List.mem_flatMap.mp member
  rcases List.mem_cons.mp (List.mem_reverse.mp present) with last | earlier
  · exact indices_branch frame (last ▸ inside)
  · refine List.mem_append_right _ (List.mem_append_left _ ?_)
    exact List.mem_flatMap.mpr ⟨branch, earlier, inside⟩

end Frame

namespace Reader

/-- The state of a reader inside of an outer one, which has just opened a
group. -/
def embed (outer reader : Reader) : Reader :=
  { outer with
    position := outer.position + reader.position
    mode := reader.mode.move outer.position
    top := reader.top.embed outer
    below := reader.below.map (Frame.embed outer) ++ outer.below
    groups := outer.groups ++ reader.groups
    groupsBefore? := reader.groupsBefore?.map (outer.groups.size + ·) }

/-- The names of the groups that were opened, if they have any. -/
def groupNames (reader : Reader) : List (Option String) :=
  reader.groups.toList.map Group.name?

variable {outer reader : Reader}

@[simp] theorem embed_mode :
    (outer.embed reader).mode = reader.mode.move outer.position := rfl

@[simp] theorem embed_position :
    (outer.embed reader).position = outer.position + reader.position := rfl

@[simp] theorem embed_top :
    (outer.embed reader).top = reader.top.embed outer := rfl

theorem groupNames_embed :
    (outer.embed reader).groupNames =
      outer.groupNames ++ reader.groupNames := by
  change (outer.groups ++ reader.groups).toList.map Group.name? = _
  rw [Array.toList_append, List.map_append]
  rfl

theorem groupNames_openGroup (start : Nat) (name? : Option String) :
    (reader.openGroup start name?).groupNames =
      reader.groupNames ++ [name?] := by
  change (reader.groups.push { name? }).toList.map Group.name? = _
  rw [Array.toList_push, List.map_append]
  rfl

theorem embed_push (item : Regex) :
    (outer.embed reader).push (item.shift outer.groups.size) =
      outer.embed (reader.push item) := rfl

/-! ## Groups -/

section Index

variable {index : Nat} (positive : 0 < index)

include positive

theorem getElem?_embed :
    (outer.embed reader).groups[outer.groups.size + index - 1]? =
      reader.groups[index - 1]? := by
  have behind : outer.groups.size + index - 1 =
      outer.groups.size + (index - 1) := by omega
  change (outer.groups ++ reader.groups)[_]? = _
  rw [behind, Array.getElem?_append_right (by omega),
    Nat.add_sub_cancel_left]

theorem groupWidth_embed :
    (outer.embed reader).groupWidth (outer.groups.size + index) =
      reader.groupWidth index := by
  rw [groupWidth, groupWidth, getElem?_embed positive]

theorem isClosed_embed :
    (outer.embed reader).isClosed (outer.groups.size + index) =
      reader.isClosed index := by
  rw [isClosed, isClosed, getElem?_embed positive]

theorem checkBehind_embed
    {position : Nat}
    (allowed : reader.checkBehind index position = .ok ())
    (otherPosition : Nat) :
    (outer.embed reader).checkBehind (outer.groups.size + index)
      otherPosition = .ok () := by
  rw [checkBehind] at allowed ⊢
  rw [isClosed_embed positive]
  rw [embed]
  dsimp only
  cases before : reader.groupsBefore? with
  | none => rfl
  | some count =>
      rw [before] at allowed
      dsimp only [Option.map_some] at allowed ⊢
      split at allowed
      · cases allowed
      · rename_i closed
        rw [if_neg closed]
        split at allowed
        · cases allowed
        · rename_i known
          rw [if_neg (by omega)]

end Index

theorem indexOf?_embed
    {name : String}
    (unknown : some name ∉ outer.groupNames) :
    (outer.embed reader).indexOf? name =
      (reader.indexOf? name).map (outer.groups.size + ·) := by
  have absent : outer.groups.findIdx? (fun group =>
      group.name? == some name) = none := by
    rw [Array.findIdx?_eq_none_iff]
    intro group member
    rw [beq_eq_false_iff_ne]
    intro equal
    exact unknown (List.mem_map.mpr ⟨group, member.val, equal⟩)
  change Option.map (· + 1) ((outer.groups ++ reader.groups).findIdx? _) = _
  rw [Array.findIdx?_append, absent, Option.none_or, indexOf?,
    Option.map_map, Option.map_map]
  congr 1
  funext index
  simp only [Function.comp_apply]
  omega

theorem exists_of_indexOf?
    {name : String}
    {index : Nat}
    (found : reader.indexOf? name = some index) :
    0 < index ∧ index ≤ reader.groups.size ∧ some name ∈ reader.groupNames := by
  rw [indexOf?, Option.map_eq_some_iff] at found
  obtain ⟨place, located, rfl⟩ := found
  obtain ⟨within, named, _⟩ := Array.findIdx?_eq_some_iff_getElem.mp located
  refine ⟨by omega, by omega, List.mem_map.mpr ⟨reader.groups[place], ?_, ?_⟩⟩
  · exact (Array.getElem_mem within).val
  · exact beq_iff_eq.mp named

/-- A name that is not found is the name of no group. -/
theorem not_mem_of_indexOf?
    {name : String}
    (unknown : reader.indexOf? name = none) :
    some name ∉ reader.groupNames := by
  intro member
  obtain ⟨group, present, equal⟩ := List.mem_map.mp member
  rw [indexOf?, Option.map_eq_none_iff, Array.findIdx?_eq_none_iff] at unknown
  have other := unknown group (Array.mem_def.mpr present)
  rw [equal, beq_self_eq_true] at other
  cases other

/-! ## Opening brackets -/

theorem openFrame_embed
    {opener : Opener}
    (inner : opener ≠ .whole)
    (start : Nat)
    (on off : List Flag) :
    (outer.embed reader).openFrame (outer.position + start)
        (opener.shift outer.groups.size) on off =
      outer.embed (reader.openFrame start opener on off) := by
  cases opener with
  | whole => exact absurd rfl inner
  | _ => rfl

theorem openGroup_embed (start : Nat) (name? : Option String) :
    (outer.embed reader).openGroup (outer.position + start) name? =
      outer.embed (reader.openGroup start name?) := by
  have pushed : (outer.groups ++ reader.groups).push { name? } =
      outer.groups ++ reader.groups.push { name? } := Array.push_append ..
  have size : (outer.groups ++ reader.groups.push { name? }).size =
      outer.groups.size + (reader.groups.push { name? }).size :=
    Array.size_append
  rw [openGroup]
  change ({ outer.embed reader with
    groups := (outer.groups ++ reader.groups).push { name? } } :
      Reader).openFrame _ (.capture ((outer.groups ++ reader.groups).push
        { name? }).size) [] [] = _
  rw [pushed, size]
  let opened := { reader with groups := reader.groups.push { name? } }
  exact @openFrame_embed outer opened (.capture opened.groups.size) nofun start
    [] []

theorem openBehind_embed (start : Nat) (positive : Bool) :
    (outer.embed reader).openBehind (outer.position + start) positive =
      outer.embed (reader.openBehind start positive) := by
  rcases reader with ⟨position, mode, top, below, groups, groupsBefore?, _, _⟩
  cases groupsBefore? with
  | none =>
      have size : (outer.groups ++ groups).size =
          outer.groups.size + groups.size := Array.size_append
      rw [openBehind, embed]
      dsimp only
      rw [Option.map_none, Option.getD_none, size]
      rfl
  | some before => rfl

/-! ## Closing brackets -/

theorem modify_append_right
    (first second : Array α)
    (index : Nat)
    (change : α → α) :
    (first ++ second).modify (first.size + index) change =
      first ++ second.modify index change := by
  refine Array.ext' ?_
  rw [Array.toList_modify, Array.toList_append, Array.toList_append,
    Array.toList_modify]
  exact List.modifyTailIdx_add _ index first.toList second.toList

section Close

variable {frame : Frame} (positive : ∀ index ∈ frame.indices, 0 < index)

include positive

theorem width_body_embed (outer reader : Reader) :
    (frame.embed outer).body.width (outer.embed reader).groupWidth =
      frame.body.width reader.groupWidth := by
  rw [Frame.body_embed]
  refine width_shift fun index member => ?_
  exact groupWidth_embed (positive index (Frame.indices_body frame member))

theorem closedFrame_embed (inner : frame.opener ≠ .whole) :
    (outer.embed reader).closedFrame (frame.embed outer) =
      (reader.closedFrame frame).shift outer.groups.size := by
  have width := width_body_embed positive outer reader
  have body := Frame.body_embed outer frame
  have branch := Frame.branch_embed outer frame
  rcases frame with ⟨opener, start, flags, branches, items⟩
  cases opener with
  | whole => exact absurd rfl inner
  | ifGroup index =>
      cases branches with
      | nil => exact congrArg (Regex.ifGroup _ · .empty) branch
      | cons yes others => exact congrArg (Regex.ifGroup _ _) branch
  | behind direction outermost =>
      exact congr (congrArg (Regex.behind direction) width) body
  | capture index => exact congrArg (Regex.capture _) body
  | plain => exact congrArg Regex.group body
  | atomic => exact congrArg Regex.atomic body
  | ahead direction => exact congrArg (Regex.ahead direction) body

theorem leaveFrame_embed (inner : frame.opener ≠ .whole) :
    (outer.embed reader).leaveFrame (frame.embed outer) =
      outer.embed (reader.leaveFrame frame) := by
  have width := width_body_embed positive outer reader
  have numbered : ∀ index ∈ frame.opener.indices, 0 < index :=
    fun index member => positive index (List.mem_append_left _ member)
  rcases frame with ⟨opener, start, flags, branches, items⟩
  cases opener with
  | whole => exact absurd rfl inner
  | capture index =>
      have behind : outer.groups.size + index - 1 =
          outer.groups.size + (index - 1) := by
        have := numbered index (List.mem_singleton_self index)
        omega
      rw [leaveFrame, leaveFrame]
      dsimp only [Frame.embed, Opener.shift] at width ⊢
      rw [width, behind]
      refine congrArg (fun groups => { outer.embed reader with groups }) ?_
      exact modify_append_right outer.groups reader.groups ..
  | behind direction outermost => cases outermost <;> rfl
  | ifGroup _ | plain | atomic | ahead _ => rfl

end Close

/-! ## Items -/

theorem pushLiterals_embed (text : List Char) :
    (outer.embed reader).pushLiterals text =
      outer.embed (reader.pushLiterals text) := by
  induction text generalizing reader with
  | nil => rfl
  | cons c rest inductionHypothesis =>
      exact @inductionHypothesis (reader.pushLiteral c.toNat)

theorem repeatLast_embed
    {start least : Nat}
    {most : Option Nat}
    {after : Reader}
    (repeated : reader.repeatLast start least most = .ok after)
    (otherStart : Nat) :
    (outer.embed reader).repeatLast otherStart least most =
      .ok (outer.embed after) := by
  rw [repeatLast] at repeated ⊢
  split at repeated
  · cases repeated
  · rename_i item items current
    rw [embed_top, Frame.embed, current, List.map_cons]
    dsimp only
    rw [isAnchor_shift, isLoop_shift]
    split at repeated
    · cases repeated
    · rename_i repeatable
      rw [if_neg repeatable]
      split at repeated
      · cases repeated
      · rename_i single
        rw [if_neg single]
        cases repeated
        rfl

theorem setStrategy_embed (strategy : Strategy) :
    (outer.embed reader).setStrategy strategy =
      outer.embed (reader.setStrategy strategy) := by
  rcases reader with ⟨position, mode, ⟨opener, start, flags, branches, items⟩,
    below, groups, groupsBefore?, conditions, globalFlags⟩
  cases items with
  | nil => rfl
  | cons item items => cases item <;> rfl

end Reader
end Regex
end PathRouter
