import PathRouter.Proofs.Regex.Embedding

/-!
# What readers keep

While an expression is read, only the bottom frame surrounds the whole of it,
and every number refers to a group that has been opened.  Groups, conditions
and flags for the whole expression are only ever added.

## Main definitions

* `Reader.IsSound`: the invariant of readers.
* `Reader.Extends`: a later reader knows all that an earlier one knew.
-/

namespace PathRouter
namespace Regex

/-- All groups that an expression refers to are among the first `count`. -/
def IsNumbered (count : Nat) (r : Regex) : Prop :=
  ∀ index ∈ r.indices, 0 < index ∧ index ≤ count

theorem isNumbered_of_indices_eq_nil
    {r : Regex}
    (free : r.indices = [])
    (count : Nat) :
    r.IsNumbered count := by
  intro index member
  rw [free] at member
  cases member

namespace Frame

/-- All groups that a frame refers to are among the first `count`. -/
def IsNumbered (count : Nat) (frame : Frame) : Prop :=
  ∀ index ∈ frame.indices, 0 < index ∧ index ≤ count

variable {frame : Frame} {count : Nat}

theorem IsNumbered.mono
    {more : Nat}
    (numbered : frame.IsNumbered count)
    (grown : count ≤ more) :
    frame.IsNumbered more := fun index member =>
  ⟨(numbered index member).1, Nat.le_trans (numbered index member).2 grown⟩

theorem IsNumbered.push
    {item : Regex}
    (numbered : frame.IsNumbered count)
    (itemNumbered : item.IsNumbered count) :
    (frame.push item).IsNumbered count := by
  intro index member
  simp only [indices, Frame.push, List.flatMap_cons, List.mem_append]
    at member
  rcases member with opener | branches | item | items
  · exact numbered index (List.mem_append_left _ opener)
  · exact numbered index
      (List.mem_append_right _ (List.mem_append_left _ branches))
  · exact itemNumbered index item
  · exact numbered index
      (List.mem_append_right _ (List.mem_append_right _ items))

theorem IsNumbered.opener
    (numbered : frame.IsNumbered count) :
    ∀ index ∈ frame.opener.indices, 0 < index ∧ index ≤ count :=
  fun index member => numbered index (List.mem_append_left _ member)

theorem IsNumbered.body
    (numbered : frame.IsNumbered count) :
    frame.body.IsNumbered count := fun index member =>
  numbered index (indices_body frame member)

theorem IsNumbered.branch
    (numbered : frame.IsNumbered count) :
    frame.branch.IsNumbered count := fun index member =>
  numbered index (indices_branch frame member)

theorem IsNumbered.nextBranch
    (numbered : frame.IsNumbered count) :
    frame.nextBranch.IsNumbered count := by
  intro index member
  simp only [indices, Frame.nextBranch, List.flatMap_cons, List.flatMap_nil,
    List.append_nil, List.mem_append] at member
  rcases member with opener | branch | branches
  · exact numbered index (List.mem_append_left _ opener)
  · exact numbered.branch index branch
  · exact numbered index
      (List.mem_append_right _ (List.mem_append_left _ branches))

/-- Items may be replaced by others that refer to the same groups. -/
theorem IsNumbered.replace
    {item other : Regex}
    {items : List Regex}
    (numbered : frame.IsNumbered count)
    (current : frame.items = item :: items)
    (same : other.indices = item.indices) :
    IsNumbered count { frame with items := other :: items } := by
  intro index member
  refine numbered index ?_
  rw [indices, current, List.flatMap_cons, ← same]
  exact member

end Frame

/-- A row of frames in which only the bottom one surrounds a whole expression,
under the flags that a text starts with. -/
def IsStack : Frame → List Frame → Prop
  | bottom, [] => bottom.opener = .whole ∧ bottom.flags = {}
  | top, frame :: below => top.opener ≠ .whole ∧ IsStack frame below

theorem IsStack.congr
    {top other : Frame}
    {below : List Frame}
    (stack : IsStack top below)
    (opener : other.opener = top.opener)
    (flags : other.flags = top.flags) :
    IsStack other below := by
  cases below with
  | nil => exact ⟨opener.trans stack.1, flags.trans stack.2⟩
  | cons frame below => exact ⟨opener ▸ stack.1, stack.2⟩

/-- Comments up to the end of the line need a flag, and flags that are turned
on are more than none. -/
def Mode.Fits (flags : Flags) : Mode → Prop
  | lineComment => flags.verbose = true
  | flagsOn _ on => on ≠ []
  | _ => True

/-- Groups that have names have different ones. -/
def HaveDistinctNames (names : List (Option String)) : Prop :=
  (names.filterMap id).Nodup

namespace Reader

/-- The brackets around the place of a reader, from the inside. -/
def openers (reader : Reader) : List Opener :=
  (reader.top :: reader.below).map Frame.opener

/-- The invariant of readers. -/
structure IsSound (reader : Reader) : Prop where
  /-- Only the bottom frame surrounds the whole expression. -/
  stack : IsStack reader.top reader.below
  /-- The innermost frame refers to groups that have been opened. -/
  top : reader.top.IsNumbered reader.groups.size
  /-- All other frames refer to groups that have been opened. -/
  below : ∀ frame ∈ reader.below, frame.IsNumbered reader.groups.size
  /-- What the reader is in the middle of fits the flags in force. -/
  fits : reader.mode.Fits reader.top.flags
  /-- Groups are counted only inside of an outermost look at what precedes. -/
  behind : reader.groupsBefore? = none ∨
    ∃ positive, .behind positive true ∈ reader.openers

theorem isSound_empty : ({} : Reader).IsSound where
  stack := ⟨rfl, rfl⟩
  top := by
    intro index member
    cases member
  below := by
    intro frame member
    cases member
  fits := trivial
  behind := .inl rfl

/-- A later reader knows all that an earlier one knew. -/
structure Extends (before after : Reader) : Prop where
  /-- All groups are still there. -/
  groups : before.groupNames <+: after.groupNames
  /-- All conditions are still there. -/
  conditions : before.conditions <+: after.conditions
  /-- All flags for the whole expression are still there. -/
  globalFlags : before.globalFlags <+: after.globalFlags
  /-- No new condition refers to a group zero. -/
  positive : (∀ entry ∈ before.conditions, 0 < entry.1) →
    ∀ entry ∈ after.conditions, 0 < entry.1
  /-- No new group has the name of another one. -/
  distinct : HaveDistinctNames before.groupNames →
    HaveDistinctNames after.groupNames

theorem Extends.refl (reader : Reader) : reader.Extends reader :=
  ⟨List.prefix_rfl, List.prefix_rfl, List.prefix_rfl, id, id⟩

theorem Extends.trans
    {first second third : Reader}
    (early : first.Extends second)
    (late : second.Extends third) :
    first.Extends third :=
  ⟨early.groups.trans late.groups, early.conditions.trans late.conditions,
    early.globalFlags.trans late.globalFlags, late.positive ∘ early.positive,
    late.distinct ∘ early.distinct⟩

theorem Extends.of_eq
    {before after : Reader}
    (groups : after.groupNames = before.groupNames)
    (conditions : after.conditions = before.conditions)
    (globalFlags : after.globalFlags = before.globalFlags) :
    before.Extends after :=
  ⟨groups ▸ List.prefix_rfl, conditions ▸ List.prefix_rfl,
    globalFlags ▸ List.prefix_rfl, fun positive => conditions ▸ positive,
    fun distinct => groups ▸ distinct⟩

variable {reader : Reader}

@[simp] theorem length_groupNames :
    reader.groupNames.length = reader.groups.size := by
  rw [groupNames, List.length_map, Array.length_toList]

/-- Closing a group does not change its name. -/
theorem map_name?_modify
    (groups : List Group)
    (place : Nat)
    (width? : Option Width) :
    (groups.modify place ({ · with width? })).map Group.name? =
      groups.map Group.name? := by
  refine List.ext_getElem? fun other => ?_
  rw [List.getElem?_map, List.getElem?_map, List.getElem?_modify]
  cases groups[other]? with
  | none => rfl
  | some group =>
      by_cases same : place = other <;> simp [same]

theorem groupNames_leaveFrame (frame : Frame) :
    (reader.leaveFrame frame).groupNames = reader.groupNames := by
  rw [leaveFrame]
  split
  · change List.map _ (Array.modify _ _ _).toList = _
    rw [Array.toList_modify]
    exact map_name?_modify ..
  · rfl
  · rfl

theorem size_leaveFrame (frame : Frame) :
    (reader.leaveFrame frame).groups.size = reader.groups.size := by
  rw [← length_groupNames, groupNames_leaveFrame, length_groupNames]

@[simp] theorem conditions_leaveFrame (frame : Frame) :
    (reader.leaveFrame frame).conditions = reader.conditions := by
  rw [leaveFrame]
  split <;> rfl

@[simp] theorem globalFlags_leaveFrame (frame : Frame) :
    (reader.leaveFrame frame).globalFlags = reader.globalFlags := by
  rw [leaveFrame]
  split <;> rfl

/-- Groups are no longer counted behind an outermost look at what precedes. -/
theorem groupsBefore?_leaveFrame (reader : Reader) (frame : Frame) :
    (reader.leaveFrame frame).groupsBefore? = none ∨
      (reader.leaveFrame frame).groupsBefore? = reader.groupsBefore? ∧
        ∀ positive, frame.opener ≠ .behind positive true := by
  rw [leaveFrame]
  split
  · rename_i index opener
    refine .inr ⟨rfl, fun positive other => ?_⟩
    cases opener.symm.trans other
  · exact .inl rfl
  · rename_i other
    exact .inr ⟨rfl, other⟩

/-- The expression of a closed bracket refers to the groups of its frame. -/
theorem isNumbered_closedFrame
    {frame : Frame}
    {count : Nat}
    (numbered : frame.IsNumbered count) :
    (reader.closedFrame frame).IsNumbered count := by
  have ofOpener := numbered.opener
  have body := numbered.body
  have branch := numbered.branch
  rcases frame with ⟨opener, start, flags, branches, items⟩
  cases opener with
  | whole | plain | atomic | ahead _ | behind _ _ => exact body
  | capture index =>
      intro other member
      rcases List.mem_cons.mp member with own | inside
      · exact ofOpener other (List.mem_singleton.mpr own)
      · exact body other inside
  | ifGroup index =>
      intro other member
      cases branches with
      | nil =>
          rcases List.mem_cons.mp member with own | inside
          · exact ofOpener other (List.mem_singleton.mpr own)
          · exact branch other (by simpa [Regex.indices] using inside)
      | cons yes others =>
          rcases List.mem_cons.mp member with own | inside
          · exact ofOpener other (List.mem_singleton.mpr own)
          · rcases List.mem_append.mp inside with first | second
            · refine numbered other (List.mem_append_right _ ?_)
              exact List.mem_append_left _
                (List.mem_flatMap.mpr ⟨yes, List.mem_cons_self, first⟩)
            · exact branch other second

theorem extends_openGroup
    {name? : Option String}
    (new : ∀ name ∈ name?, some name ∉ reader.groupNames)
    (start : Nat) :
    reader.Extends (reader.openGroup start name?) := by
  refine ⟨?_, List.prefix_rfl, List.prefix_rfl, id, fun distinct => ?_⟩
  · rw [groupNames_openGroup]
    exact List.prefix_append ..
  · rw [groupNames_openGroup, HaveDistinctNames, List.filterMap_append]
    apply List.nodup_append.mpr
    cases name? with
    | none => exact ⟨distinct, List.nodup_nil, nofun⟩
    | some name =>
        refine ⟨distinct, List.pairwise_singleton .., ?_⟩
        intro other old same isSame equal
        obtain ⟨_, member, rfl⟩ := List.mem_filterMap.mp old
        rw [List.mem_singleton.mp isSame] at equal
        exact new name rfl (equal ▸ member)

theorem extends_pushLiterals (text : List Char) :
    reader.Extends (reader.pushLiterals text) := by
  induction text generalizing reader with
  | nil => exact .refl reader
  | cons c rest inductionHypothesis =>
      have pushed : reader.Extends (reader.pushLiteral c.toNat) :=
        .of_eq rfl rfl rfl
      exact pushed.trans inductionHypothesis

/-! ## Steps keep the invariant -/

namespace IsSound

theorem inMode
    {mode : Mode}
    (sound : reader.IsSound)
    (fits : mode.Fits reader.top.flags) :
    IsSound { reader with mode } :=
  { sound with fits }

/-- The innermost frame may get other contents. -/
theorem withTop
    {mode : Mode}
    {top : Frame}
    (sound : reader.IsSound)
    (opener : top.opener = reader.top.opener)
    (flags : top.flags = reader.top.flags)
    (numbered : top.IsNumbered reader.groups.size)
    (fits : mode.Fits top.flags) :
    IsSound { reader with mode, top } where
  stack := sound.stack.congr opener flags
  top := numbered
  below := sound.below
  fits := fits
  behind := by
    rw [openers, List.map_cons, opener]
    exact sound.behind

theorem push
    {item : Regex}
    (sound : reader.IsSound)
    (numbered : item.IsNumbered reader.groups.size) :
    (reader.push item).IsSound :=
  sound.withTop rfl rfl (sound.top.push numbered) trivial

theorem openFrame
    {start : Nat}
    {opener : Opener}
    {on off : List Flag}
    (sound : reader.IsSound)
    (inner : opener ≠ .whole)
    (numbered : ∀ index ∈ opener.indices,
      0 < index ∧ index ≤ reader.groups.size) :
    (reader.openFrame start opener on off).IsSound where
  stack := ⟨inner, sound.stack⟩
  top := by
    intro index member
    refine numbered index ?_
    simpa [Reader.openFrame, Frame.indices] using member
  below := by
    intro frame member
    rcases List.mem_cons.mp member with top | below
    · exact top ▸ sound.top
    · exact sound.below frame below
  fits := trivial
  behind := sound.behind.imp_right fun ⟨positive, member⟩ =>
    ⟨positive, List.mem_cons_of_mem _ member⟩

theorem pushLiterals
    (sound : reader.IsSound)
    (text : List Char) :
    (reader.pushLiterals text).IsSound := by
  induction text generalizing reader with
  | nil => exact sound
  | cons c rest inductionHypothesis =>
      refine inductionHypothesis (sound.push ?_)
      exact isNumbered_of_indices_eq_nil rfl _

theorem openGroup
    {start : Nat}
    {name? : Option String}
    (sound : reader.IsSound) :
    (reader.openGroup start name?).IsSound := by
  have grown : reader.groups.size ≤ (reader.groups.push { name? }).size := by
    rw [Array.size_push]
    exact Nat.le_succ _
  have opened :
      IsSound { reader with groups := reader.groups.push { name? } } :=
    { sound with
      top := sound.top.mono grown
      below := fun frame member => (sound.below frame member).mono grown }
  refine opened.openFrame nofun fun index member => ?_
  rw [List.mem_singleton.mp member]
  dsimp only
  rw [Array.size_push]
  omega

theorem openBehind
    {start : Nat}
    {positive : Bool}
    (sound : reader.IsSound) :
    (reader.openBehind start positive).IsSound := by
  have opened : (reader.openFrame start
      (.behind positive reader.groupsBefore?.isNone) [] []).IsSound :=
    sound.openFrame nofun nofun
  refine ⟨opened.stack, opened.top, opened.below, opened.fits, .inr ?_⟩
  rcases sound.behind with none | ⟨outer, member⟩
  · refine ⟨positive, ?_⟩
    rw [Reader.openBehind, none]
    exact List.mem_cons_self
  · exact ⟨outer, List.mem_cons_of_mem _ member⟩

theorem repeatLast
    {start least : Nat}
    {most : Option Nat}
    {after : Reader}
    (sound : reader.IsSound)
    (repeated : reader.repeatLast start least most = .ok after) :
    after.IsSound := by
  rw [Reader.repeatLast] at repeated
  split at repeated
  · cases repeated
  · rename_i item items current
    split at repeated
    · cases repeated
    · split at repeated
      · cases repeated
      · cases repeated
        exact sound.withTop rfl rfl (sound.top.replace current rfl) trivial

theorem setStrategy
    {strategy : Strategy}
    (sound : reader.IsSound) :
    (reader.setStrategy strategy).IsSound := by
  rw [Reader.setStrategy]
  split
  · rename_i _ least most body items current
    exact sound.withTop rfl rfl (sound.top.replace current rfl) trivial
  · exact sound.inMode trivial

/-- Closing the innermost bracket makes an item of the frame below. -/
theorem leave
    {frame : Frame}
    {below : List Frame}
    (sound : reader.IsSound)
    (around : reader.below = frame :: below) :
    IsSound ({ reader.leaveFrame reader.top with
      top := frame, below }.push (reader.closedFrame reader.top)) := by
  have stack := sound.stack
  have numbered := sound.below
  rw [around] at stack numbered
  have size : (reader.leaveFrame reader.top).groups.size =
      reader.groups.size := size_leaveFrame reader.top
  have item : (reader.closedFrame reader.top).IsNumbered
      reader.groups.size := isNumbered_closedFrame sound.top
  refine ⟨stack.2.congr rfl rfl, ?_, ?_, trivial, ?_⟩
  · change Frame.IsNumbered (reader.leaveFrame reader.top).groups.size _
    rw [size]
    exact (numbered frame List.mem_cons_self).push item
  · change ∀ frame ∈ below, Frame.IsNumbered
      (reader.leaveFrame reader.top).groups.size frame
    rw [size]
    exact fun other member => numbered other (List.mem_cons_of_mem _ member)
  · rcases groupsBefore?_leaveFrame reader reader.top with none | ⟨same, other⟩
    · exact .inl none
    · refine sound.behind.imp same.trans fun ⟨positive, member⟩ => ?_
      rw [openers, around] at member
      rcases List.mem_cons.mp member with top | inside
      · exact absurd top.symm (other positive)
      · exact ⟨positive, inside⟩

end IsSound
end Reader
end Regex
end PathRouter
