import Mathlib
import PathRouter.Proofs.Compiler.Assembly
import PathRouter.Proofs.Compiler.Simulation
import PathRouter.Proofs.Table.Reading

/-!
# Matches explain paths

Whatever the constraints of its tokens are, a match of the expression of a
pattern says how the pattern spells the path: some of the optional groups are
entered, and the path is made of the literal texts and the values of the tokens
that are in no group or in an entered one.  The other tokens have no value.

## Main definitions

* `Pattern.Choice`: the groups of a pattern that are entered.
* `Pattern.Choice.Explains`: a choice and the values of tokens spell a path.
* `Pattern.Explained`: the ways of reading a pattern spell what they have read.

## Main statements

* `Pattern.Choice.perm_tokens`: a choice makes each token present or absent.
* `Pattern.Assembles.explained`: every way of reading the items of a pattern
  spells what it has read.
* `Compiler.exists_explains_of_fullMatch?`: every match of a whole path explains
  it.
-/

namespace PathRouter

namespace Pattern

/-- The groups of a pattern that are entered.  A group inside of another one can
only be entered with that one. -/
inductive Choice : Pattern → Type
  | nil : Choice .nil
  | literal
      {rest : Pattern}
      (text : String)
      (behind : Choice rest) :
      Choice (.literal text rest)
  | token
      {rest : Pattern}
      (ref : TokenRef)
      (behind : Choice rest) :
      Choice (.token ref rest)
  | enter
      {inner rest : Pattern}
      (inside : Choice inner)
      (behind : Choice rest) :
      Choice (.group inner rest)
  | skip
      {rest : Pattern}
      (inner : Pattern)
      (behind : Choice rest) :
      Choice (.group inner rest)

namespace Choice

/-- The tokens that are in no group or in an entered one. -/
def present {tree : Pattern} : Choice tree → List TokenRef
  | nil => []
  | literal _ behind => behind.present
  | token ref behind => ref :: behind.present
  | enter inside behind => inside.present ++ behind.present
  | skip _ behind => behind.present

/-- The tokens in groups that are not entered. -/
def absent {tree : Pattern} : Choice tree → List TokenRef
  | nil => []
  | literal _ behind => behind.absent
  | token _ behind => behind.absent
  | enter inside behind => inside.absent ++ behind.absent
  | skip inner behind => inner.tokens ++ behind.absent

/-- The literal texts and the values of tokens that are entered, in the order of
the pattern. -/
def text (captures : Captures) {tree : Pattern} : Choice tree → List Char
  | nil => []
  | literal text behind => text.toList ++ behind.text captures
  | token ref behind =>
      ((captures.get? ref.name).join.getD "").toList ++ behind.text captures
  | enter inside behind => inside.text captures ++ behind.text captures
  | skip _ behind => behind.text captures

variable {tree : Pattern}

/-- Each token is present or absent. -/
theorem perm_tokens (choice : Choice tree) :
    (choice.present ++ choice.absent).Perm tree.tokens := by
  induction choice with
  | nil => exact .nil
  | literal _ _ inductionHypothesis => exact inductionHypothesis
  | token ref _ inductionHypothesis => exact inductionHypothesis.cons ref
  | enter inside behind insideHypothesis behindHypothesis =>
      refine .trans ?_ (insideHypothesis.append behindHypothesis)
      simp only [present, absent, List.append_assoc]
      refine .append_left _ ?_
      simp only [← List.append_assoc]
      exact .append_right _ List.perm_append_comm
  | skip inner behind inductionHypothesis =>
      refine .trans ?_ (inductionHypothesis.append_left inner.tokens)
      simp only [present, absent, ← List.append_assoc]
      exact .append_right _ List.perm_append_comm

/-- Present tokens have values, and absent ones have none. -/
structure Fits (choice : Choice tree) (captures : Captures) : Prop where
  /-- Each token that is present has a value. -/
  present : ∀ ref ∈ choice.present,
    ∃ value, captures.get? ref.name = some (some value)
  /-- Each token that is absent has no value. -/
  absent : ∀ ref ∈ choice.absent, captures.get? ref.name = some none

/-- The literal texts and the values of the present tokens make up the path, and
absent tokens have no value. -/
structure Explains (choice : Choice tree) (captures : Captures)
    (path : String) : Prop extends choice.Fits captures where
  /-- The path is what the choice spells. -/
  text : path.toList = choice.text captures

end Choice

end Pattern

namespace Regex

/-! ## What groups keep and tell -/

/-- Groups behind the first `low` and among the first `high` keep what they have
read. -/
def Keeps (low high : Nat) (before after : MatchState) : Prop :=
  ∀ index, low < index → index ≤ high → after.span? index = before.span? index

variable {low high : Nat} {before middle after : MatchState}

theorem Keeps.mono
    {least most : Nat}
    (keeps : Keeps low high before after)
    (above : low ≤ least)
    (below : most ≤ high) :
    Keeps least most before after := by
  intro index isAbove isBelow
  exact keeps index (Nat.lt_of_le_of_lt above isAbove)
    (Nat.le_trans isBelow below)

theorem Keeps.trans
    (first : Keeps low high before middle)
    (second : Keeps low high middle after) :
    Keeps low high before after := by
  intro index above below
  rw [second index above below, first index above below]

/-- Groups that come before or behind those that are captured keep what they
have read. -/
theorem Records.keeps
    {least most : Nat}
    {groups : List Nat}
    (records : Records groups before after)
    (between : Between least most groups)
    (apart : high ≤ least ∨ most ≤ low) :
    Keeps low high before after := by
  intro index above below
  apply records.span?_eq
  intro member
  have bounds := between index member
  omega

/-- A group is captured with those inside of it. -/
theorem Between.capture
    {count high : Nat}
    {body : Regex}
    (between : Between (count + 1) (count + 1 + high) body.recorded) :
    Between count (count + 1 + high)
      (Regex.capture (count + 1) body).recorded := by
  refine List.forall_mem_cons.mpr ⟨by omega, fun index member => ?_⟩
  have bounds := between index member
  omega

/-- A group has read the text between the places where it is entered and where
it is left. -/
theorem captured_of_mem_ways_capture
    {path : List Char}
    {index : Nat}
    {body : Regex}
    {before after final : MatchState}
    (reached : after ∈ (capture index body).ways path.toArray before)
    (kept : final.span? index = after.span? index) :
    Program.captured path.toArray final index =
      some (Pattern.textBetween path before.position after.position) := by
  obtain ⟨inside, _, rfl⟩ := List.mem_map.mp reached
  have span : (inside.record index before.position).span? index =
      some (before.position, inside.position) := List.lookup_cons_self
  rw [Program.captured, kept, span, ← ofList_extract]
  rfl

/-- What is told about named groups behind the first `count` is what they have
read in the end. -/
def Tells (captures : Captures) (text : Array Char) (final : MatchState)
    (count : Nat) (names : List (Option String)) : Prop :=
  ∀ name index, (name, index) ∈ namedIndices names →
    captures.get? name = some (Program.captured text final (count + index))

theorem Tells.of_append
    {captures : Captures}
    {text : Array Char}
    {final : MatchState}
    {count : Nat}
    {names others : List (Option String)}
    (tells : Tells captures text final count (names ++ others)) :
    Tells captures text final count names ∧
      Tells captures text final (count + names.length) others := by
  constructor
  · intro name index listed
    apply tells
    rw [namedIndices_append]
    exact List.mem_append_left _ listed
  · intro name index listed
    rw [Nat.add_assoc]
    apply tells
    rw [namedIndices_append]
    exact List.mem_append_right _ (List.mem_map.mpr ⟨_, listed, rfl⟩)

end Regex

/-! ## Places of the groups -/

namespace Pattern

open Regex

/-- The path up to a place, in two parts. -/
theorem take_append_textBetween
    {start stop : Nat}
    (path : List Char)
    (onwards : start ≤ stop) :
    path.take start ++ (textBetween path start stop).toList =
      path.take stop := by
  rw [textBetween, String.toList_ofList, ← List.take_add,
    Nat.add_sub_cancel' onwards]

namespace Assembles

variable
  {tree : Pattern}
  {count : Nat}
  {items : List Regex}
  {names : List (Option String)}

/-- The items capture the groups of the pattern only. -/
theorem between (assembles : tree.Assembles count items names) :
    Between count (count + names.length) (items.flatMap recorded) := by
  induction assembles with
  | nil => exact .nil
  | literal text _ inductionHypothesis =>
      rw [List.flatMap_append, List.flatMap_map]
      refine Between.append ?_ inductionHypothesis
      intro index member
      obtain ⟨_, _, none⟩ := List.mem_flatMap.mp member
      cases none
  | token ref own _ inductionHypothesis =>
      intro index member
      rw [List.flatMap_cons] at member
      rw [List.cons_append, List.length_cons, List.length_append]
      rcases List.mem_append.mp member with inside | behind
      · have bounds := own.capture index inside
        omega
      · have bounds := inductionHypothesis index behind
        omega
  | group _ _ innerHypothesis restHypothesis =>
      intro index member
      rw [List.flatMap_cons, Regex.recorded, Regex.recorded,
        recorded_sequence] at member
      rw [List.length_append]
      rcases List.mem_append.mp member with inside | behind
      · have bounds := innerHypothesis index inside
        omega
      · have bounds := restHypothesis index behind
        omega

/-- Each token names a group. -/
theorem mem_names
    {ref : TokenRef}
    (assembles : tree.Assembles count items names)
    (member : ref ∈ tree.tokens) :
    some ref.name ∈ names := by
  induction assembles with
  | nil => cases member
  | literal _ _ inductionHypothesis => exact inductionHypothesis member
  | token _ _ _ inductionHypothesis =>
      rcases List.mem_cons.mp member with rfl | behind
      · exact List.mem_cons_self
      · exact List.mem_append_right _ (inductionHypothesis behind)
  | group _ _ innerHypothesis restHypothesis =>
      rcases List.mem_append.mp member with inside | behind
      · exact List.mem_append_left _ (innerHypothesis inside)
      · exact List.mem_append_right _ (restHypothesis behind)

/-- If its groups have read nothing, the tokens of a pattern have no value. -/
theorem get?_of_skipped
    {text : Array Char}
    {final : MatchState}
    {captures : Captures}
    {ref : TokenRef}
    (assembles : tree.Assembles count items names)
    (member : ref ∈ tree.tokens)
    (fresh : Keeps count (count + names.length) {} final)
    (tells : Tells captures text final count names) :
    captures.get? ref.name = some none := by
  obtain ⟨index, listed⟩ :=
    exists_mem_namedIndices (assembles.mem_names member)
  have bounds := bounds_of_mem_namedIndices listed
  rw [tells _ _ listed, Program.captured, fresh _ (by omega) (by omega)]
  rfl

end Assembles

/-! ## Ways of reading a pattern -/

section Explained

variable (path : List Char) (captures : Captures) (final : MatchState)

/-- Every way of reading the items of a pattern spells what it has read, as long
as its groups have read nothing before and keep what they have read to the end
of the whole path. -/
def Explained (tree : Pattern) (count : Nat) (items : List Regex)
    (names : List (Option String)) : Prop :=
  ∀ before after : MatchState, after ∈ rowWays path.toArray items before →
    Keeps count (count + names.length) {} before →
    Keeps count (count + names.length) after final →
    Tells captures path.toArray final count names →
    ∃ choice : Choice tree,
      path.take after.position =
        path.take before.position ++ choice.text captures ∧
      choice.Fits captures

variable
  {path : List Char}
  {captures : Captures}
  {final : MatchState}
  {inner rest : Pattern}
  {count : Nat}
  {items more : List Regex}
  {names others : List (Option String)}

theorem explained_nil : Explained path captures final .nil count [] [] := by
  intro before after reached _ _ _
  rw [List.mem_singleton.mp reached]
  exact ⟨.nil, (List.append_nil _).symm, List.forall_mem_nil _,
    List.forall_mem_nil _⟩

theorem Explained.literal
    (text : String)
    (behind : Explained path captures final rest count items names) :
    Explained path captures final (.literal text rest) count
      (text.toList.map (fun c => .one (.exactly c.toNat)) ++ items) names := by
  intro before after reached fresh kept tells
  rw [rowWays_append, rowWays_exactly] at reached
  split at reached
  · rename_i here
    rw [List.flatMap_singleton] at reached
    obtain ⟨choice, spells, fits⟩ := behind _ after reached fresh kept tells
    obtain ⟨_, begins⟩ := List.isPrefixOf_iff_prefix.mp here
    refine ⟨.literal text choice, ?_, fits.present, fits.absent⟩
    rw [spells, List.take_add, ← begins, List.take_left, List.append_assoc]
    rfl
  · cases reached

theorem Explained.token
    {body : Regex}
    {own : List (Option String)}
    (ref : TokenRef)
    (recorded : Between (count + 1) (count + 1 + own.length) body.recorded)
    (between : Between (count + 1 + own.length)
      (count + 1 + own.length + names.length) (items.flatMap Regex.recorded))
    (behind : Explained path captures final rest (count + 1 + own.length) items
      names) :
    Explained path captures final (.token ref rest) count
      (.capture (count + 1) body :: items)
      (some ref.name :: own ++ names) := by
  intro before after reached fresh kept tells
  obtain ⟨middle, isOwn, isBehind⟩ := List.mem_flatMap.mp reached
  have records := records_of_mem_ways isOwn
  have recordsBehind := records_of_mem_rowWays isBehind
  obtain ⟨tellsHere, tellsBehind⟩ := tells.of_append
  rw [List.length_cons, ← Nat.add_assoc, Nat.add_right_comm] at tellsBehind
  rw [List.cons_append, List.length_cons, List.length_append] at fresh kept
  have freshBehind : Keeps (count + 1 + own.length)
      (count + 1 + own.length + names.length) {} middle :=
    (fresh.mono (by omega) (by omega)).trans
      (records.keeps recorded.capture (.inr (Nat.le_refl _)))
  obtain ⟨choice, spells, fits⟩ := behind middle after isBehind freshBehind
    (kept.mono (by omega) (by omega)) tellsBehind
  have keptHere : Keeps count (count + 1) middle final :=
    (recordsBehind.keeps between (.inl (by omega))).trans
      (kept.mono (by omega) (by omega))
  have value : captures.get? ref.name =
      some (some (textBetween path before.position middle.position)) := by
    rw [tellsHere _ _ List.mem_cons_self]
    exact congrArg some (captured_of_mem_ways_capture isOwn
      (keptHere _ (by omega) (by omega)))
  refine ⟨.token ref choice, ?_, ?_, fits.absent⟩
  · rw [spells, ← take_append_textBetween path records.position,
      List.append_assoc, Choice.text, value]
    rfl
  · exact List.forall_mem_cons.mpr ⟨⟨_, value⟩, fits.present⟩

theorem Explained.group
    (assembles : inner.Assembles count items names)
    (between : Between (count + names.length)
      (count + names.length + others.length) (more.flatMap Regex.recorded))
    (inside : Explained path captures final inner count items names)
    (behind : Explained path captures final rest (count + names.length) more
      others) :
    Explained path captures final (.group inner rest) count
      (.loop .greedy 0 (some 1) (.group (sequence items)) :: more)
      (names ++ others) := by
  intro before after reached fresh kept tells
  obtain ⟨middle, isOption, isBehind⟩ := List.mem_flatMap.mp reached
  have recordsBehind := records_of_mem_rowWays isBehind
  obtain ⟨tellsInside, tellsBehind⟩ := tells.of_append
  rw [List.length_append] at fresh kept
  have freshInside : Keeps count (count + names.length) {} before :=
    fresh.mono (Nat.le_refl _) (by omega)
  have keptInside : Keeps count (count + names.length) middle final :=
    (recordsBehind.keeps between (.inl (Nat.le_refl _))).trans
      (kept.mono (Nat.le_refl _) (by omega))
  have freshBehind : Keeps (count + names.length)
      (count + names.length + others.length) {} before :=
    fresh.mono (by omega) (by omega)
  have keptBehind : Keeps (count + names.length)
      (count + names.length + others.length) after final :=
    kept.mono (by omega) (by omega)
  rw [ways_option, ways, ways_sequence] at isOption
  rcases List.mem_append.mp isOption with entered | skipped
  · have records := records_of_mem_rowWays entered
    have stillFresh := freshBehind.trans
      (records.keeps assembles.between (.inr (Nat.le_refl _)))
    obtain ⟨choice, spells, fits⟩ :=
      inside before middle entered freshInside keptInside tellsInside
    obtain ⟨other, spellsBehind, fitsBehind⟩ :=
      behind middle after isBehind stillFresh keptBehind tellsBehind
    refine ⟨.enter choice other, ?_, ?_, ?_⟩
    · rw [spellsBehind, spells, List.append_assoc]
      rfl
    · exact List.forall_mem_append.mpr ⟨fits.present, fitsBehind.present⟩
    · exact List.forall_mem_append.mpr ⟨fits.absent, fitsBehind.absent⟩
  · obtain rfl := List.mem_singleton.mp skipped
    obtain ⟨other, spells, fits⟩ :=
      behind middle after isBehind freshBehind keptBehind tellsBehind
    refine ⟨.skip inner other, spells, fits.present, ?_⟩
    refine List.forall_mem_append.mpr ⟨?_, fits.absent⟩
    intro ref member
    exact assembles.get?_of_skipped member (freshInside.trans keptInside)
      tellsInside

/-- Whatever pattern the items belong to, every way of reading them spells what
it has read. -/
theorem Assembles.explained
    {tree : Pattern}
    (assembles : tree.Assembles count items names) :
    Explained path captures final tree count items names := by
  induction assembles with
  | nil => exact explained_nil
  | literal text _ behind => exact behind.literal text
  | token ref recorded rest behind =>
      exact behind.token ref recorded rest.between
  | group inner rest inside behind =>
      exact .group inner rest.between inside behind

end Explained
end Pattern

namespace Compiler

open Regex

section Explanation

variable [CharacterNames] {compiler : Compiler}

/-- If the constraints of its tokens are expressions by themselves, whatever
they capture, look around for or refer to, every match of a pattern that
compiles explains the whole path. -/
theorem exists_explains_of_fullMatch?
    {pattern path : String}
    {tree : Pattern}
    {program : Program}
    {captures : Captures}
    (parsed : parsePattern pattern = .ok tree)
    (constraints : ∀ ref ∈ tree.tokens, ∀ constraint,
      compiler.constraint? ref = some constraint →
        ∃ alone, Regex.parse constraint = .ok alone)
    (compiled : compiler.compile pattern = .ok program)
    (matched : program.fullMatch? path = some captures) :
    ∃ choice : Pattern.Choice tree, choice.Explains captures path := by
  obtain ⟨items, names, assembles, body, groups⟩ :=
    exists_assembles_of_compile parsed constraints compiled
  obtain ⟨source, _, read⟩ := exists_of_bind compiled
  have named := isNamed_of_parse (mapError_eq_ok_iff.mp read)
  obtain ⟨final, found, entries⟩ := named.entries_of_fullMatch? matched
  rw [body, fullMatch?_anchored] at found
  have whole : final.position = path.toList.length := by
    simpa using List.find?_some found
  have tells : Tells captures path.toList.toArray final 0 names := by
    intro name index listed
    apply Table.get?_of_mem
    rw [entries, groups, Nat.zero_add]
    exact List.mem_map_of_mem listed
  obtain ⟨choice, spells, fits⟩ := assembles.explained {} final
    (List.mem_of_find?_eq_some found) (fun _ _ _ => rfl) (fun _ _ _ => rfl)
    tells
  refine ⟨choice, fits, ?_⟩
  rw [whole, List.take_length] at spells
  exact spells

end Explanation

open scoped CharacterNames.BasicLatin

/-- The constraint of one token names a group, refers to a number and looks
ahead.  Behind another token, the number is that of the other token. -/
def letterAndMark : Compiler where
  registry := .ofList
    [("letter", "[a-c]"), ("mark", "(?P<first>b)\\1(?=/|$)")]
  defaultConstraint := .text "[0-9]+"

/-- Two tokens, an optional group, and another one inside of that group. -/
def letterAndMarkTree : Pattern :=
  .literal "/" (.token { name := "letter" }
    (.literal "-" (.token { name := "mark" }
      (.group (.literal "/" (.token { name := "page" }
        (.group (.literal "." (.token { name := "part" } .nil)) .nil)))
          .nil))))

/-- The outer group is entered, and the inner one is not. -/
theorem exists_explains_of_fullMatch?_mark :
    let captures : Captures := .ofList
      [("letter", some "a"), ("mark", some "ba"), ("first", some "b"),
        ("page", some "12"), ("part", none)]
    parsePattern "/:letter-:mark(/:page(.:part))" = .ok letterAndMarkTree ∧
      (∀ ref ∈ letterAndMarkTree.tokens, ∀ constraint,
        letterAndMark.constraint? ref = some constraint →
          ∃ alone, Regex.parse constraint = .ok alone) ∧
      ∃ program,
        letterAndMark.compile "/:letter-:mark(/:page(.:part))" =
          .ok program ∧
        program.fullMatch? "/a-ba/12" = some captures ∧
        ∃ choice : Pattern.Choice letterAndMarkTree,
          choice.Explains captures "/a-ba/12" := by
  intro captures
  have parsed : parsePattern "/:letter-:mark(/:page(.:part))" =
      .ok letterAndMarkTree := by cbv
  have constraints : ∀ ref ∈ letterAndMarkTree.tokens, ∀ constraint,
      letterAndMark.constraint? ref = some constraint →
        ∃ alone, Regex.parse constraint = .ok alone := by
    intro ref member constraint found
    have text : letterAndMark.constraint? ref = some "[a-c]" ∨
        letterAndMark.constraint? ref = some "(?P<first>b)\\1(?=/|$)" ∨
        letterAndMark.constraint? ref = some "[0-9]+" := by
      clear found
      revert ref
      decide
    rcases text with letter | mark | number
    · cases letter.symm.trans found
      have read : (·.groupCount) <$> Regex.parse "[a-c]" = .ok 0 := by cbv
      exact (exists_of_map read).imp fun _ parsed => parsed.1
    · cases mark.symm.trans found
      have read : (·.groupCount) <$> Regex.parse "(?P<first>b)\\1(?=/|$)" =
          .ok 1 := by cbv
      exact (exists_of_map read).imp fun _ parsed => parsed.1
    · cases number.symm.trans found
      have read : (·.groupCount) <$> Regex.parse "[0-9]+" = .ok 0 := by cbv
      exact (exists_of_map read).imp fun _ parsed => parsed.1
  have read : (letterAndMark.compile "/:letter-:mark(/:page(.:part))").map
      (·.fullMatch? "/a-ba/12") = .ok (some captures) := by cbv
  obtain ⟨program, compiled, matched⟩ := exists_of_map read
  exact ⟨parsed, constraints, program, compiled, matched,
    exists_explains_of_fullMatch? parsed constraints compiled matched⟩

end Compiler
end PathRouter
