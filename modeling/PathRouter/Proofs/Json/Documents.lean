import PathRouter.Json.Reader
import PathRouter.Json.Source
import PathRouter.Proofs.Json.Texts
import PathRouter.Proofs.Text.Encoding
import PathRouter.Proofs.Value.Tables

/-!
# Reading documents of mappings

A mapping is written as tokens, between which any blanks may stand.  The tokens
of a document are found whatever the blanks are, and the tokens of a mapping are
read as the mapping, whatever it stands in.

## Main definitions

* `AreWritten`: a text that consists of given tokens and blanks.
* `Scans`: a text in which given tokens are found.
* `Delivers`: tokens that are read as a value.
* `mapTokens`: the tokens of a mapping.
* `IsLayout`: a way to lay out tokens as texts.

## Main statements

* `Scans.parse_eq`: a document is read as the value of its tokens.
* `delivers_mapTokens`: the tokens of a mapping are read as the mapping.
* `AreWritten.decode_eq`: the bytes of a document are read as its text.
* `IsLayout.write`: a mapping is written as its tokens.
-/

namespace PathRouter
namespace Json

/-- A text that a token is written as. -/
inductive Token.IsWritten : Token → List Char → Prop
  | openMap : IsWritten .openMap ['\x7b']
  | closeMap : IsWritten .closeMap ['\x7d']
  | colon : IsWritten .colon [':']
  | comma : IsWritten .comma [',']
  | text
      {content : String}
      {spelling : List Char}
      (spelled : SpellsText content.toList spelling) :
      IsWritten (.text content) ('"' :: (spelling ++ ['"']))

/-- Blanks between tokens. -/
def AreBlank (blanks : List Char) : Prop :=
  ∀ c ∈ blanks, isSeparator c = true

/-- A text that tokens are written as, with any blanks around them. -/
inductive AreWritten : List Token → List Char → Prop
  | nil
      {blanks : List Char}
      (areBlank : AreBlank blanks) :
      AreWritten [] blanks
  | cons
      {blanks text behind : List Char}
      {token : Token}
      {tokens : List Token}
      (areBlank : AreBlank blanks)
      (written : token.IsWritten text)
      (rest : AreWritten tokens behind) :
      AreWritten (token :: tokens) (blanks ++ (text ++ behind))

/-- A text in which tokens are found, whatever stands behind it. -/
def Scans (tokens : List Token) (text : List Char) : Prop :=
  ∀ behind, (scan (text ++ behind)).map Lexeme.token =
    tokens ++ (scan behind).map Lexeme.token

/-! ## Finding tokens -/

/-- A token is found at the front of its text, whatever follows. -/
theorem Token.IsWritten.exists_next
    {token : Token}
    {text : List Char}
    (written : token.IsWritten text) :
    ∃ c rest, text = c :: rest ∧ isSeparator c = false ∧
      ∀ behind, Token.next c (rest ++ behind) = (token, behind) := by
  cases written with
  | openMap | closeMap | colon | comma =>
      exact ⟨_, [], rfl, rfl, fun _ => rfl⟩
  | @text content spelling spelled =>
      refine ⟨'"', spelling ++ ['"'], rfl, rfl, fun behind => ?_⟩
      rw [List.append_assoc, List.singleton_append]
      obtain ⟨codes, read, isContent⟩ :=
        @exists_codes_of_spellsText (.malformed .unterminatedText
          ((spelling ++ '"' :: behind).length + 1)) _ _ spelled behind
      simp only [Token.next, read, isContent, String.ofList_toList]

theorem scan_of_areBlank
    {blanks : List Char}
    (areBlank : AreBlank blanks)
    (behind : List Char) :
    scan (blanks ++ behind) = scan behind := by
  rw [scan, scan, List.dropWhile_append_of_pos areBlank]

/-- A token at the front of a text is found. -/
theorem map_scan_cons
    {token : Token}
    {c : Char}
    {rest behind : List Char}
    (noBlank : isSeparator c = false)
    (next : Token.next c rest = (token, behind)) :
    (scan (c :: rest)).map Lexeme.token =
      token :: (scan behind).map Lexeme.token := by
  rw [scan, List.dropWhile_cons_of_neg (Bool.eq_false_iff.mp noBlank)]
  dsimp only
  rw [next]
  rfl

/-- The tokens of a document are found whatever the blanks are. -/
theorem AreWritten.scans
    {tokens : List Token}
    {document : List Char}
    (written : AreWritten tokens document) :
    Scans tokens document := by
  intro last
  induction written with
  | nil areBlank => rw [scan_of_areBlank areBlank, List.nil_append]
  | cons areBlank written _ inductionHypothesis =>
      obtain ⟨c, rest, rfl, noBlank, next⟩ := written.exists_next
      rw [List.append_assoc, scan_of_areBlank areBlank, List.append_assoc,
        List.cons_append, map_scan_cons noBlank (next _), inductionHypothesis]
      rfl

theorem Scans.append
    {tokens others : List Token}
    {text behind : List Char}
    (scans : Scans tokens text)
    (scansBehind : Scans others behind) :
    Scans (tokens ++ others) (text ++ behind) := by
  intro last
  rw [List.append_assoc, scans, scansBehind, List.append_assoc]

/-- Nothing is found in a text without characters. -/
theorem scan_nil : scan [] = [] := by
  rw [scan]
  rfl

/-! ## Reading tokens -/

namespace ReaderState

/-- Only faults tell places. -/
theorem toOption_step
    (state : ReaderState)
    (token : Token)
    (left other : Nat) :
    (state.step ⟨token, left⟩).toOption =
      (state.step ⟨token, other⟩).toOption := by
  have value (frames : List Frame) :
      (stepValue frames ⟨token, left⟩).toOption =
        (stepValue frames ⟨token, other⟩).toOption := by
    unfold stepValue
    dsimp only
    split <;> rfl
  have name (frames : List Frame) :
      (stepName frames ⟨token, left⟩).toOption =
        (stepName frames ⟨token, other⟩).toOption := by
    unfold stepName
    dsimp only
    split <;> rfl
  unfold step
  split
  · rfl
  · dsimp only
    split
    · rfl
    · rfl
    · rfl
    · rfl
    · rfl
    · rfl
    · rfl
    · exact value _
    · exact value _
    · exact name _
    · exact name _
    · rfl

/-- If the value of a document is a mapping, then its keys are texts. -/
def IsNamed : ReaderState → Prop
  | complete value => value.IsNamed
  | reading _ _ => True

theorem isNamed_deliver
    {value : Value}
    (named : value.IsNamed)
    (frames : List Frame) :
    (deliver value frames).IsNamed := by
  unfold deliver
  split
  · trivial
  · trivial
  · exact named

theorem isNamed_stepValue
    {frames : List Frame}
    {lexeme : Lexeme}
    {next : ReaderState}
    (stepped : stepValue frames lexeme = .ok next) :
    next.IsNamed := by
  unfold stepValue at stepped
  split at stepped <;> cases stepped
  · trivial
  · trivial
  · exact isNamed_deliver (Value.isNamed_scalar _) frames
  · exact isNamed_deliver (Value.isNamed_scalar _) frames

theorem isNamed_stepName
    {frames : List Frame}
    {lexeme : Lexeme}
    {next : ReaderState}
    (stepped : stepName frames lexeme = .ok next) :
    next.IsNamed := by
  unfold stepName at stepped
  split at stepped <;> cases stepped
  trivial

/-- Whatever a token completes, the keys of a mapping are texts. -/
theorem isNamed_step
    {state next : ReaderState}
    {lexeme : Lexeme}
    (stepped : state.step lexeme = .ok next) :
    next.IsNamed := by
  unfold step at stepped
  split at stepped
  · cases stepped
  · split at stepped
    · cases stepped
      exact isNamed_deliver (Value.isNamed_list _) _
    · cases stepped
      exact isNamed_deliver (Value.isNamed_ofTable _) _
    · cases stepped
      exact isNamed_deliver (Value.isNamed_list _) _
    · cases stepped
      exact isNamed_deliver (Value.isNamed_ofTable _) _
    · cases stepped
      trivial
    · cases stepped
      trivial
    · cases stepped
      trivial
    · exact isNamed_stepValue stepped
    · exact isNamed_stepValue stepped
    · exact isNamed_stepName stepped
    · exact isNamed_stepName stepped
    · cases stepped

theorem isNamed_foldlM
    {state last : ReaderState}
    {lexemes : List Lexeme}
    (named : state.IsNamed)
    (read : lexemes.foldlM step state = .ok last) :
    last.IsNamed := by
  induction lexemes generalizing state with
  | nil =>
      cases read
      exact named
  | cons lexeme rest inductionHypothesis =>
      obtain ⟨next, stepped, behind⟩ := exists_of_bind read
      exact inductionHypothesis (isNamed_step stepped) behind

/-- Reads tokens wherever they stand. -/
def readTokens (state : ReaderState) (tokens : List Token) :
    Except Fault ReaderState :=
  tokens.foldlM (fun state token => state.step ⟨token, 0⟩) state

theorem readTokens_append
    (state : ReaderState)
    (first second : List Token) :
    state.readTokens (first ++ second) =
      state.readTokens first >>= fun next => next.readTokens second :=
  List.foldlM_append

/-- Where tokens stand does not matter unless they are out of place. -/
theorem foldlM_of_readTokens
    {state last : ReaderState}
    {lexemes : List Lexeme}
    (read : state.readTokens (lexemes.map Lexeme.token) = .ok last) :
    lexemes.foldlM step state = .ok last := by
  induction lexemes generalizing state with
  | nil => exact read
  | cons lexeme rest inductionHypothesis =>
      obtain ⟨next, stepped, behind⟩ := exists_of_bind read
      dsimp only at stepped
      have same := toOption_step state lexeme.token 0 lexeme.left
      rw [stepped] at same
      rw [List.foldlM_cons]
      cases here : state.step lexeme with
      | error fault =>
          rw [here] at same
          cases same
      | ok other =>
          rw [here] at same
          cases same
          exact inductionHypothesis behind

end ReaderState

/-- Where a value is due, the tokens are read as a value. -/
def Delivers (tokens : List Token) (value : Value) : Prop :=
  ∀ frames, (ReaderState.reading .value frames).readTokens tokens =
    .ok (.deliver value frames)

/-- The tokens of the members of a mapping behind the first one, and its end. -/
def memberTokens : List (String × List Token) → List Token
  | [] => [.closeMap]
  | (name, tokens) :: rest =>
      .comma :: .text name :: .colon :: (tokens ++ memberTokens rest)

/-- The tokens of a mapping. -/
def mapTokens : List (String × List Token) → List Token
  | [] => [.openMap, .closeMap]
  | (name, tokens) :: rest =>
      .openMap :: .text name :: .colon :: (tokens ++ memberTokens rest)

theorem delivers_text (content : String) :
    Delivers [.text content] (.text content) :=
  fun _ => rfl

/-- Members of a mapping with the values that their tokens are read as. -/
abbrev AreDelivered
    (members : List (String × List Token))
    (entries : List (String × Value)) : Prop :=
  List.Forall₂
    (fun member entry => member.1 = entry.1 ∧ Delivers member.2 entry.2)
    members entries

/-- The members of a mapping join the ones in front of them. -/
theorem readTokens_memberTokens
    {members : List (String × List Token)}
    {entries : List (String × Value)}
    (delivered : AreDelivered members entries)
    (front : List (String × Value))
    (frames : List Frame) :
    (ReaderState.reading .separator (.map front :: frames)).readTokens
        (memberTokens members) =
      .ok (.deliver (.ofTable (.ofList (front.reverse ++ entries)))
        frames) := by
  induction delivered generalizing front with
  | nil =>
      rw [List.append_nil]
      rfl
  | @cons member entry members entries isEntry _ inductionHypothesis =>
      obtain ⟨name, tokens⟩ := member
      obtain ⟨key, value⟩ := entry
      obtain ⟨rfl, delivers⟩ := isEntry
      have read := delivers (.entry name :: .map front :: frames)
      change (ReaderState.reading .value _).readTokens
        (tokens ++ memberTokens members) = _
      rw [ReaderState.readTokens_append, read, ok_bind]
      change (ReaderState.reading .separator _).readTokens _ = _
      rw [inductionHypothesis, List.reverse_cons, List.append_assoc]
      rfl

/-- The tokens of a mapping are read as the mapping. -/
theorem delivers_mapTokens
    {members : List (String × List Token)}
    {table : Table Value}
    (delivered : AreDelivered members table.entries) :
    Delivers (mapTokens members) (.ofTable table) := by
  intro frames
  rw [← Table.ofList_entries table]
  generalize table.entries = entries at delivered ⊢
  cases delivered with
  | nil => rfl
  | @cons member entry members entries isEntry delivered =>
      obtain ⟨name, tokens⟩ := member
      obtain ⟨key, value⟩ := entry
      obtain ⟨rfl, delivers⟩ := isEntry
      have read := delivers (.entry name :: .map [] :: frames)
      change (ReaderState.reading .value _).readTokens
        (tokens ++ memberTokens members) = _
      rw [ReaderState.readTokens_append, read, ok_bind]
      exact readTokens_memberTokens delivered _ frames

/-- A document is read as the value of its tokens. -/
theorem Scans.parse_eq
    {tokens : List Token}
    {document : List Char}
    {value : Value}
    (scans : Scans tokens document)
    (delivers : Delivers tokens value) :
    parse document = .ok value := by
  have found := scans []
  rw [scan_nil, List.map_nil, List.append_nil, List.append_nil] at found
  have read := delivers []
  rw [← found] at read
  have complete := ReaderState.foldlM_of_readTokens read
  rw [parse, ReaderState.start, complete]
  rfl

/-- The keys of a mapping that a document stands for are texts. -/
theorem isNamed_of_parse
    {document : List Char}
    {value : Value}
    (parsed : parse document = .ok value) :
    value.IsNamed := by
  obtain ⟨state, read, finished⟩ := exists_of_bind parsed
  have named := @ReaderState.isNamed_foldlM .start _ _ trivial read
  cases state with
  | reading due frames => cases finished
  | complete content =>
      cases finished
      exact named

theorem AreWritten.parse_eq
    {tokens : List Token}
    {document : List Char}
    {value : Value}
    (written : AreWritten tokens document)
    (delivers : Delivers tokens value) :
    parse document = .ok value :=
  written.scans.parse_eq delivers

/-! ## Bytes -/

theorem Token.IsWritten.not_mem
    {token : Token}
    {text : List Char}
    (written : token.IsWritten text) :
    '\x00' ∉ text := by
  cases written with
  | openMap | closeMap | colon | comma => decide
  | text spelled =>
      intro member
      rcases List.mem_cons.mp member with equal | member
      · cases equal
      · rcases List.mem_append.mp member with inside | last
        · exact spelled.forall_mem Spells.ne_null _ inside rfl
        · cases List.mem_singleton.mp last

theorem AreBlank.not_mem
    {blanks : List Char}
    (areBlank : AreBlank blanks) :
    '\x00' ∉ blanks :=
  fun member => Bool.false_ne_true (areBlank _ member)

/-- No document of tokens holds the null character. -/
theorem AreWritten.not_mem
    {tokens : List Token}
    {document : List Char}
    (written : AreWritten tokens document) :
    '\x00' ∉ document := by
  induction written with
  | nil areBlank => exact areBlank.not_mem
  | cons areBlank written _ inductionHypothesis =>
      intro member
      rcases List.mem_append.mp member with front | member
      · exact areBlank.not_mem front
      · rcases List.mem_append.mp member with here | behind
        · exact written.not_mem here
        · exact inductionHypothesis behind

theorem toNat_lt_of_isSeparator
    {c : Char}
    (blank : isSeparator c = true) :
    c.toNat < 0x80 := by
  simp only [isSeparator, Bool.or_eq_true, beq_iff_eq] at blank
  rcases blank with ((rfl | rfl) | rfl) | rfl <;> decide

/-- A document of tokens begins with one of the first 128 characters. -/
theorem AreWritten.toNat_head_lt
    {tokens : List Token}
    {c : Char}
    {rest : List Char}
    (written : AreWritten tokens (c :: rest)) :
    c.toNat < 0x80 := by
  generalize equal : c :: rest = document at written
  cases written with
  | nil areBlank =>
      rw [← equal] at areBlank
      exact toNat_lt_of_isSeparator (areBlank c List.mem_cons_self)
  | @cons blanks text behind token tokens areBlank written _ =>
      cases blanks with
      | cons blank blanks =>
          rw [(List.cons.inj equal).1]
          exact toNat_lt_of_isSeparator (areBlank blank List.mem_cons_self)
      | nil =>
          cases written with
          | openMap | closeMap | colon | comma | text =>
              rw [(List.cons.inj equal).1]
              decide

/-- Without null bytes, a document is taken to have one byte to a unit. -/
theorem detectNulls_eq
    {bytes : List UInt8}
    (noNull : 0 ∉ bytes) :
    detectNulls bytes = .utf8 := by
  unfold detectNulls
  split
  · next a b c d rest =>
      have first : a ≠ 0 := fun zero => noNull (by simp [zero])
      have second : b ≠ 0 := fun zero => noNull (by simp [zero])
      rw [if_neg first, if_neg second]
  · next a b =>
      have first : a ≠ 0 := fun zero => noNull (by simp [zero])
      have second : b ≠ 0 := fun zero => noNull (by simp [zero])
      rw [if_neg first, if_neg second]
  · rfl

/-- No mark begins with one of the first 128 characters. -/
theorem detectMark?_eq
    {first : UInt8}
    (bound : first.toNat < 0x80)
    (noNull : first ≠ 0)
    (rest : List UInt8) :
    detectMark? (first :: rest) = none := by
  unfold detectMark?
  split
  · next equal =>
      cases equal
      exact absurd rfl noNull
  all_goals
    first
    | rfl
    | next equal =>
        cases equal
        exact absurd bound (by decide)

/-- The bytes of a document are read as its text. -/
theorem AreWritten.decode_eq
    {tokens : List Token}
    {document : List Char}
    (written : AreWritten tokens document) :
    decode (Text.utf8 document) = .ok document := by
  have noNull := Text.zero_not_mem_utf8 written.not_mem
  have nulls := detectNulls_eq noNull
  have noMark : detectMark? (Text.utf8 document) = none := by
    cases document with
    | nil => rfl
    | cons c rest =>
        have bound := written.toNat_head_lt
        have value : (UInt8.ofNat c.toNat).toNat = c.toNat :=
          Text.Utf8.toNat_ofNat (by omega)
        rw [Text.utf8_cons_of_lt bound] at noNull ⊢
        refine detectMark?_eq (value.symm ▸ bound) ?_ _
        exact fun zero => noNull (zero ▸ List.mem_cons_self)
  rw [decode, detect, noMark, nulls]
  exact Text.Encoding.decode_utf8 true 0 document

/-! ## Writing -/

variable {tokens others : List Token} {document behind : List Char}

theorem AreWritten.of_isWritten
    {token : Token}
    {text : List Char}
    (written : token.IsWritten text) :
    AreWritten [token] text := by
  have none : AreBlank [] := fun _ member => (nomatch member)
  have alone := AreWritten.cons none written (.nil none)
  rwa [List.nil_append, List.append_nil] at alone

theorem AreWritten.blanks_append
    {blanks : List Char}
    (areBlank : AreBlank blanks)
    (written : AreWritten tokens document) :
    AreWritten tokens (blanks ++ document) := by
  cases written with
  | nil areBlankBehind =>
      apply AreWritten.nil
      exact List.forall_mem_append.mpr ⟨areBlank, areBlankBehind⟩
  | cons areBlankBehind written rest =>
      rw [← List.append_assoc]
      apply AreWritten.cons _ written rest
      exact List.forall_mem_append.mpr ⟨areBlank, areBlankBehind⟩

theorem AreWritten.append
    (written : AreWritten tokens document)
    (writtenBehind : AreWritten others behind) :
    AreWritten (tokens ++ others) (document ++ behind) := by
  induction written with
  | nil areBlank => exact writtenBehind.blanks_append areBlank
  | cons areBlank written _ inductionHypothesis =>
      rw [List.append_assoc, List.append_assoc]
      exact .cons areBlank written inductionHypothesis

theorem areBlank_lineStart (depth : Nat) : AreBlank (lineStart depth) := by
  intro c member
  rcases List.mem_cons.mp member with rfl | member
  · rfl
  · rw [List.eq_of_mem_replicate member]
    rfl

theorem areWritten_writtenText (content : String) :
    AreWritten [.text content] (writtenText content.toList) :=
  .of_isWritten (.text (spellsText_writtenText content.toList))

/-! ## Layouts -/

/-- A mapping is written entry by entry. -/
theorem write_ofMapping (depth : Nat) (mapping : Mapping) :
    write depth (.ofMapping mapping) =
      bracketed '\x7b' '\x7d' depth (mapping.entries.map fun entry =>
        writtenMember entry.1 (write (depth + 1) entry.2)) := by
  rw [Value.ofMapping, write, Mapping.entries, List.map_ofFn]
  rfl

theorem write_ofTable (depth : Nat) (table : Table Value) :
    write depth (.ofTable table) =
      bracketed '\x7b' '\x7d' depth (table.entries.map fun entry =>
        writtenMember (.text entry.1) (write (depth + 1) entry.2)) := by
  rw [Value.ofTable, write_ofMapping, Mapping.entries_ofTable, List.map_map]
  rfl

/-- A way to lay out tokens as texts, one text behind another, that allows what
tokens are written as. -/
structure IsLayout (laidOut : List Token → List Char → Prop) : Prop where
  /-- Tokens are laid out as they are written. -/
  ofAreWritten {tokens : List Token} {text : List Char} :
    AreWritten tokens text → laidOut tokens text
  /-- Texts may stand behind each other. -/
  append {tokens others : List Token} {text behind : List Char} :
    laidOut tokens text → laidOut others behind →
      laidOut (tokens ++ others) (text ++ behind)

theorem isLayout_areWritten : IsLayout AreWritten := ⟨id, AreWritten.append⟩

theorem isLayout_scans : IsLayout Scans := ⟨AreWritten.scans, Scans.append⟩

/-- Members of a mapping with the tokens that their values are written as. -/
abbrev LaysOutMembers
    (laidOut : List Token → List Char → Prop)
    (members : List (String × List Token))
    (entries : List (String × Value)) : Prop :=
  List.Forall₂
    (fun member entry => member.1 = entry.1 ∧
      ∀ depth, laidOut member.2 (write depth entry.2))
    members entries

namespace IsLayout

variable
  {laidOut : List Token → List Char → Prop}
  (layout : IsLayout laidOut)
include layout

/-- The name of a member is written on a line of its own, in front of the
value. -/
theorem member
    (name : String)
    (depth : Nat)
    (value : laidOut tokens document) :
    laidOut (.text name :: .colon :: tokens)
      (lineStart depth ++ writtenMember (.text name) document) := by
  have isName : AreWritten [.text name] (writtenName (.text name)) :=
    areWritten_writtenText name
  have isColon : AreWritten [.colon] [':'] := .of_isWritten .colon
  have isBlank : AreWritten [] [' '] :=
    .nil fun c member => List.mem_singleton.mp member ▸ rfl
  have line := (isName.blanks_append (areBlank_lineStart depth)).append
    (isColon.append isBlank)
  rw [writtenMember, ← List.append_assoc, ← List.append_assoc]
  exact layout.append (layout.ofAreWritten line) value

/-- The members behind the first one are written behind commas. -/
theorem members
    {members : List (String × List Token)}
    {entries : List (String × Value)}
    (laysOut : LaysOutMembers laidOut members entries)
    (depth : Nat) :
    laidOut (memberTokens members)
      ((entries.map fun entry =>
          writtenMember (.text entry.1) (write (depth + 1) entry.2)).flatMap
            (fun part => ',' :: (lineStart (depth + 1) ++ part)) ++
        (lineStart depth ++ ['\x7d'])) := by
  induction laysOut with
  | nil =>
      have closes : AreWritten [.closeMap] ['\x7d'] := .of_isWritten .closeMap
      have line := closes.blanks_append (areBlank_lineStart depth)
      exact layout.ofAreWritten line
  | @cons member entry members entries isEntry _ inductionHypothesis =>
      obtain ⟨name, tokens⟩ := member
      obtain ⟨key, value⟩ := entry
      obtain ⟨rfl, written⟩ := isEntry
      have comma : AreWritten [.comma] [','] := .of_isWritten .comma
      have line := layout.member name (depth + 1) (written (depth + 1))
      have laid := layout.append (layout.ofAreWritten comma)
        (layout.append line inductionHypothesis)
      rw [List.map_cons, List.flatMap_cons, List.append_assoc, List.cons_append]
      exact laid

/-- A mapping is written as its tokens. -/
theorem write
    {members : List (String × List Token)}
    {table : Table Value}
    (laysOut : LaysOutMembers laidOut members table.entries)
    (depth : Nat) :
    laidOut (mapTokens members) (Json.write depth (.ofTable table)) := by
  have opens : AreWritten [.openMap] ['\x7b'] := .of_isWritten .openMap
  rw [write_ofTable]
  generalize table.entries = entries at laysOut ⊢
  cases laysOut with
  | nil => exact layout.ofAreWritten (opens.append (.of_isWritten .closeMap))
  | @cons member entry members entries isEntry laysOut =>
      obtain ⟨name, tokens⟩ := member
      obtain ⟨key, value⟩ := entry
      obtain ⟨rfl, written⟩ := isEntry
      have line := layout.member name (depth + 1) (written (depth + 1))
      have laid := layout.append (layout.ofAreWritten opens)
        (layout.append line (layout.members laysOut depth))
      rw [List.map_cons, bracketed, List.append_assoc, List.append_assoc]
      exact laid

end IsLayout

end Json
end PathRouter
