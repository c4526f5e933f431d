import Retrace.Config.Load
import Retrace.Proofs.Literals

/-!
# What is read is what the values say

Policies and configurations are read off a text member by member, and what they hold is decided on
the way. If the text can be read as a value in the first place, there is another account of it: what
is read depends only on the values that the text lists, and it is what these values say, errors
included. How they are written no longer matters.

## Main definitions

* `Lists` — the members that a text lists, with the value that is read for each of them.
* `Written` — how a value is written.
* `Retention.ofValue` — what a value says as a policy.
* `Config.takeMember` — what a member says about a configuration.

## Main statements

* `Lists.foldMembersWithin_eq` — members are taken in as they are listed.
* `written_of_readValue` — a value is read from what is written.
* `readValue_eq_natural_iff` — an unsigned integer is read exactly from its literal.
* `Retention.read_eq`, `Config.ofText_eq` — what is read is what the values say, unless a policy is
  an array.
-/

namespace Retrace

namespace Json

variable {α : Type}

/-! ### Members of an object -/

/-- **The members that a text lists,** up to the closing bracket, each with the value that is read
behind its colon. -/
inductive Lists (read : Reader Value) :
    Bool → List Char → List (String × Value) → List Char → Prop
  | finished {first : Bool} {text rest : List Char}
      (ends : nextMember first text = .ok (.finished rest)) : Lists read first text [] rest
  | entry {first : Bool} {text behind after left rest : List Char} {key : String} {value : Value}
      {members : List (String × Value)} (next : nextMember first text = .ok (.entry key behind))
      (colon : expectColon behind = .ok after) (one : read after = .ok (value, left))
      (others : Lists read false left members rest) :
      Lists read first text ((key, value) :: members) rest

theorem lists_of_foldMembersWithin {read : Reader Value} {bound : Nat} {first : Bool}
    {text rest : List Char} {collected all : List (String × Value)}
    (folded : foldMembersWithin (addMember read) bound first collected text = .ok (all, rest)) :
    ∃ members, all = collected ++ members ∧ members.length < bound ∧
      Lists read first text members rest := by
  induction bound generalizing first text collected with
  | zero => cases folded
  | succ bound ih =>
    rw [foldMembersWithin] at folded
    obtain ⟨next, came, folded⟩ := bind_eq_ok_iff.1 folded
    cases next with
    | finished left =>
      obtain ⟨rfl, rfl⟩ := Prod.mk.inj (Except.ok.inj folded)
      exact ⟨[], (List.append_nil _).symm, Nat.succ_pos _, .finished came⟩
    | entry key behind =>
      obtain ⟨⟨extended, left⟩, added, folded⟩ := bind_eq_ok_iff.1 folded
      obtain ⟨after, colon, added⟩ := bind_eq_ok_iff.1 added
      obtain ⟨⟨value, left'⟩, one, added⟩ := bind_eq_ok_iff.1 added
      obtain ⟨rfl, rfl⟩ := Prod.mk.inj (Except.ok.inj added)
      obtain ⟨members, rfl, within, others⟩ := ih folded
      exact ⟨(key, value) :: members, List.append_assoc .., Nat.succ_lt_succ within,
        .entry came colon one others⟩

/-- Every listed value was read. -/
theorem Lists.exists_read {read : Reader Value} {first : Bool} {text rest : List Char}
    {members : List (String × Value)} (lists : Lists read first text members rest) {key : String}
    {value : Value} (listed : (key, value) ∈ members) :
    ∃ text rest, read text = .ok (value, rest) := by
  induction lists with
  | finished => cases listed
  | entry next colon one others ih =>
    rcases List.mem_cons.1 listed with same | listed
    · obtain ⟨-, rfl⟩ := Prod.mk.inj same
      exact ⟨_, _, one⟩
    · exact ih listed

/-- **A reader of members takes them in as they are listed,** if it takes in each of them as its
value says. -/
theorem Lists.foldMembersWithin_eq {read : Reader Value} {readMember : α → String → Reader α}
    {take : α → String × Value → Except ReadError α} {first : Bool} {text rest : List Char}
    {members : List (String × Value)} (lists : Lists read first text members rest)
    (agrees : ∀ key value, (key, value) ∈ members → ∀ acc behind after left,
      expectColon behind = .ok after → read after = .ok (value, left) →
      readMember acc key behind = (take acc (key, value)).map fun acc => (acc, left))
    {bound : Nat} (enough : members.length < bound) (acc : α) :
    foldMembersWithin readMember bound first acc text =
      (members.foldlM take acc).map fun acc => (acc, rest) := by
  induction lists generalizing bound acc with
  | finished ends =>
    obtain ⟨bound, rfl⟩ := Nat.exists_eq_add_one.2 enough
    rw [foldMembersWithin, ends]
    rfl
  | @entry first text behind after left rest key value members next colon one others ih =>
    obtain ⟨bound, rfl⟩ := Nat.exists_eq_add_one.2 (Nat.zero_lt_of_lt enough)
    have taken := agrees key value List.mem_cons_self acc behind after left colon one
    have later := ih (fun key value listed => agrees key value (List.mem_cons_of_mem _ listed))
      (Nat.lt_of_succ_lt_succ enough)
    rw [foldMembersWithin, next, List.foldlM_cons]
    dsimp only [bind, Except.bind]
    rw [taken]
    cases take acc (key, value) with
    | error cause => rfl
    | ok acc => exact later acc

/-! ### Values -/

/-- **How a value is written.** A scalar is all there is; of an object the members are known. -/
inductive Written : Nat → List Char → Value → List Char → Prop
  | scalar {depth : Nat} {text rest : List Char} {value : Value}
      (kind : readKind text = .ok (value.kind, rest))
      (closed : value.kind ≠ .array ∧ value.kind ≠ .object) : Written depth text value rest
  | array {depth : Nat} {text inside rest : List Char} {elements : List Value}
      (kind : readKind text = .ok (.array, inside)) : Written depth text (.array elements) rest
  | object {depth : Nat} {text inside rest : List Char} {members : List (String × Value)}
      (kind : readKind text = .ok (.object, inside))
      (lists : Lists (readValue depth) true inside members rest)
      (within : members.length < inside.length + 1) :
      Written (depth + 1) text (.object members) rest

/-- **A value is read from what is written.** -/
theorem written_of_readValue {depth : Nat} {text rest : List Char} {value : Value}
    (read : readValue depth text = .ok (value, rest)) : Written depth text value rest := by
  cases depth with
  | zero =>
    rw [readValue] at read
    obtain ⟨⟨kind, left⟩, starts, read⟩ := bind_eq_ok_iff.1 read
    cases kind with
    | array => cases read
    | object => cases read
    | null | boolean | number | string =>
      obtain ⟨rfl, rfl⟩ := Prod.mk.inj (Except.ok.inj read)
      refine .scalar starts ⟨?_, ?_⟩
      · rintro ⟨⟩
      · rintro ⟨⟩
  | succ depth =>
    rw [readValue] at read
    obtain ⟨⟨kind, left⟩, starts, read⟩ := bind_eq_ok_iff.1 read
    cases kind with
    | array =>
      obtain ⟨⟨elements, left⟩, -, read⟩ := bind_eq_ok_iff.1 read
      obtain ⟨rfl, rfl⟩ := Prod.mk.inj (Except.ok.inj read)
      exact .array starts
    | object =>
      obtain ⟨⟨members, left⟩, folded, read⟩ := bind_eq_ok_iff.1 read
      obtain ⟨rfl, rfl⟩ := Prod.mk.inj (Except.ok.inj read)
      obtain ⟨_, rfl, within, lists⟩ := lists_of_foldMembersWithin folded
      exact .object starts lists within
    | null | boolean | number | string =>
      obtain ⟨rfl, rfl⟩ := Prod.mk.inj (Except.ok.inj read)
      refine .scalar starts ⟨?_, ?_⟩
      · rintro ⟨⟩
      · rintro ⟨⟩

/-- Every member of an object is a value that was read. -/
theorem exists_read_of_member {depth : Nat} {text rest : List Char}
    {members : List (String × Value)} (read : readValue depth text = .ok (.object members, rest))
    {key : String} {value : Value} (listed : (key, value) ∈ members) :
    ∃ depth text rest, readValue depth text = .ok (value, rest) := by
  cases written_of_readValue read with
  | scalar kind closed => exact absurd rfl closed.2
  | object kind lists within => exact ⟨_, lists.exists_read listed⟩

/-- A document is one value and nothing behind it. -/
theorem exists_read_of_ofText {text : String} {value : Value}
    (whole : Value.ofText text = .ok value) :
    ∃ rest, readValue nestingLimit text.toList = .ok (value, rest) ∧ readEnd rest = .ok () := by
  obtain ⟨⟨value, rest⟩, read, whole⟩ := bind_eq_ok_iff.1 whole
  dsimp only at whole
  obtain ⟨_, ended, same⟩ := bind_eq_ok_iff.1 whole
  cases Except.ok.inj same
  exact ⟨rest, read, ended⟩

/-- **An unsigned integer is read exactly from its literal,** also as a value. -/
theorem readValue_eq_natural_iff {depth : Nat} {text rest : List Char} {n : Nat} :
    readValue depth text = .ok (.number (.natural n), rest) ↔
      skipBlanks text = printNatural n ++ rest ∧ n ≤ Index.maxIndex ∧ EndsNumber rest := by
  constructor
  · intro read
    cases written_of_readValue read with
    | scalar kind closed => exact readKind_eq_natural_iff.1 kind
  · exact fun literal => readValue_of_number depth (readKind_eq_natural_iff.2 literal)

/-! ### Scalars -/

theorem readNatural_of_kind {text rest : List Char} {kind : Kind}
    (starts : readKind text = .ok (kind, rest)) :
    readNatural text = kind.toNatural.map fun n => (n, rest) := by
  rw [readNatural, starts]
  dsimp only [bind, Except.bind]
  cases kind.toNatural with
  | error cause => rfl
  | ok n => rfl

/-- Null is recognised by its first letter. -/
theorem readOptional_of_null {read : Reader α} {text rest : List Char}
    (null : readKind text = .ok (.null, rest)) : readOptional read text = .ok (none, rest) := by
  have starts := starts_of_readKind null
  unfold readOptional
  generalize skipBlanks text = visible at starts ⊢
  cases starts with
  | null keyword =>
    show (expectKeyword ['u', 'l', 'l'] _).map _ = _
    rw [keyword]
    rfl

theorem readOptional_of_kind {text rest : List Char} {kind : Kind}
    (starts : readKind text = .ok (kind, rest)) (present : kind ≠ .null) :
    readOptional readNatural text = kind.toNatural.map fun n => (some n, rest) := by
  have starts' : readKind (skipBlanks text) = .ok (kind, rest) := by
    rw [← starts]
    unfold readKind
    rw [skipBlanks_skipBlanks]
  unfold readOptional
  split
  · next letters text_eq =>
    unfold readKind at starts
    rw [text_eq] at starts
    obtain ⟨_, -, same⟩ := map_eq_ok_iff.1 starts
    exact absurd (Prod.mk.inj same).1.symm present
  · rw [readNatural_of_kind starts']
    cases kind.toNatural with
    | error cause => rfl
    | ok n => rfl

theorem toNatural_kind_eq_ok_iff {value : Value} {n : Nat} :
    value.kind.toNatural = .ok n ↔ value = .number (.natural n) := by
  constructor
  · intro natural
    cases value with
    | number number =>
      cases number with
      | natural m => rw [Except.ok.inj natural]
      | negative m => cases natural
      | float x => cases natural
    | null | boolean | string | array | object => cases natural
  · rintro rfl
    rfl

end Json

open Json

/-! ### Policies -/

namespace Retention

/-- The policy of a value that names it. -/
def policyOfValue : Value → Except ReadError Policy
  | .string name => policyOfName name
  | value => .error (.wrongKind value.kind "variant identifier")

/-- Take in one member: the name of the policy, or any value. -/
def takeMember (acc : Option Policy × List (String × Value)) (member : String × Value) :
    Except ReadError (Option Policy × List (String × Value)) :=
  if member.1 = "policy" then
    if acc.1.isSome then .error (.duplicateField "policy")
    else (policyOfValue member.2).map fun policy => (some policy, acc.2)
  else .ok (acc.1, acc.2 ++ [member])

/-- **The policy that a value holds,** unless it is an array. -/
def ofValue : Value → Except ReadError Retention
  | .object members => do
    match ← members.foldlM takeMember (none, []) with
    | (none, _) => throw (.missingField "policy")
    | (some policy, others) => ofMembers policy others
  | value => .error (.wrongKind value.kind "internally tagged enum Retention")

theorem readPolicy_eq {depth : Nat} {text rest : List Char} {value : Value}
    (read : readValue depth text = .ok (value, rest)) :
    readPolicy text = (policyOfValue value).map fun policy => (policy, rest) := by
  cases written_of_readValue read with
  | scalar kind closed =>
    rw [readPolicy, kind]
    cases value with
    | array elements => exact absurd rfl closed.1
    | object members => exact absurd rfl closed.2
    | string name =>
      show (policyOfName name >>= _) = _
      rw [policyOfValue]
      cases policyOfName name with
      | error cause => rfl
      | ok policy => rfl
    | null | boolean | number => rfl
  | array kind =>
    rw [readPolicy, kind]
    rfl
  | object kind lists within =>
    rw [readPolicy, kind]
    rfl

theorem readMember_eq {depth : Nat} (acc : Option Policy × List (String × Value)) {key : String}
    {behind after rest : List Char} {value : Value} (colon : expectColon behind = .ok after)
    (read : readValue depth after = .ok (value, rest)) :
    readMember depth acc key behind = (takeMember acc (key, value)).map fun acc => (acc, rest) := by
  unfold readMember takeMember
  split
  · split
    · rfl
    · rw [colon]
      show (readPolicy after >>= _) = _
      rw [readPolicy_eq read]
      cases policyOfValue value with
      | error cause => rfl
      | ok policy => rfl
  · unfold addMember
    rw [colon]
    show ((readValue depth after >>= _) >>= _) = _
    rw [read]
    rfl

/-- **What is read as a policy is what the value says,** unless it is an array. -/
theorem read_eq {depth : Nat} {text rest : List Char} {value : Value}
    (read : readValue depth text = .ok (value, rest))
    (tagged : ∀ elements, value ≠ .array elements) :
    Retention.read depth text = (ofValue value).map fun r => (r, rest) := by
  cases written_of_readValue read with
  | scalar kind closed =>
    rw [Retention.read, kind]
    cases value with
    | array elements => exact absurd rfl closed.1
    | object members => exact absurd rfl closed.2
    | null | boolean | number | string => rfl
  | array kind => exact absurd rfl (tagged _)
  | @object depth text inside rest members kind lists within =>
    rw [Retention.read, kind]
    show readObject depth inside = _
    have folded := lists.foldMembersWithin_eq
      (fun key value listed acc behind after left colon one => readMember_eq acc colon one)
      within (none, [])
    rw [readObject, foldMembers, folded, ofValue]
    cases members.foldlM takeMember (none, []) with
    | error cause => rfl
    | ok acc =>
      obtain ⟨policy, others⟩ := acc
      cases policy with
      | none => rfl
      | some policy =>
        show (ofMembers policy others >>= _) = (ofMembers policy others).map _
        cases ofMembers policy others with
        | error cause => rfl
        | ok r => rfl

end Retention

/-! ### Configurations -/

namespace Config

/-- The limit of a value, which null leaves out. -/
def limitOfValue : Value → Except ReadError (Option Nat)
  | .null => .ok none
  | value => value.kind.toNatural.map some

/-- **Take in one member.** The list holds the keys that were taken before. -/
def takeMember (acc : Config × List String) (member : String × Value) :
    Except ReadError (Config × List String) :=
  if member.1 = "retention" then
    if acc.2.contains "retention" then .error (.duplicateField "retention")
    else (Retention.ofValue member.2).map fun retention =>
      ({ acc.1 with retention }, "retention" :: acc.2)
  else if member.1 = "resume_limit" then
    if acc.2.contains "resume_limit" then .error (.duplicateField "resume_limit")
    else (limitOfValue member.2).map fun resumeLimit =>
      ({ acc.1 with resumeLimit }, "resume_limit" :: acc.2)
  else .error (.unknownField member.1 record.names)

theorem readOptional_eq {depth : Nat} {text rest : List Char} {value : Value}
    (read : readValue depth text = .ok (value, rest)) :
    readOptional readNatural text = (limitOfValue value).map fun limit => (limit, rest) := by
  cases written_of_readValue read with
  | scalar kind closed =>
    cases value with
    | null => rw [readOptional_of_null kind]; rfl
    | array elements => exact absurd rfl closed.1
    | object members => exact absurd rfl closed.2
    | boolean | number | string =>
      rw [readOptional_of_kind kind nofun, limitOfValue]
      · cases Kind.toNatural _ with
        | error cause => rfl
        | ok n => rfl
      · nofun
  | array kind =>
    rw [readOptional_of_kind kind nofun]
    rfl
  | object kind lists within =>
    rw [readOptional_of_kind kind nofun]
    rfl

theorem readMember_eq {depth : Nat} (acc : Config × List String) {key : String}
    {behind after rest : List Char} {value : Value} (colon : expectColon behind = .ok after)
    (read : readValue depth after = .ok (value, rest))
    (tagged : key = "retention" → ∀ elements, value ≠ .array elements) :
    record.readMember depth acc key behind =
      (takeMember acc (key, value)).map fun acc => (acc, rest) := by
  unfold takeMember
  dsimp only
  split
  · next same =>
    subst same
    show (if acc.2.contains "retention" then .error (.duplicateField "retention") else
      expectColon behind >>= fun text => retentionField.read depth acc.1 text >>= _) = _
    split
    · rfl
    · rw [colon]
      show ((Retention.read depth after >>= _) >>= _) = _
      rw [Retention.read_eq read (tagged rfl)]
      cases Retention.ofValue value with
      | error cause => rfl
      | ok retention => rfl
  · next other =>
    split
    · next same =>
      subst same
      show (if acc.2.contains "resume_limit" then .error (.duplicateField "resume_limit") else
        expectColon behind >>= fun text => resumeLimitField.read depth acc.1 text >>= _) = _
      split
      · rfl
      · rw [colon]
        show ((readOptional readNatural after >>= _) >>= _) = _
        rw [readOptional_eq read]
        cases limitOfValue value with
        | error cause => rfl
        | ok limit => rfl
    · next other' =>
      have unknown : record.fields.find? (fun field => field.name == key) = none := by
        rw [List.find?_eq_none]
        intro field listed
        rw [beq_iff_eq]
        rcases List.mem_pair.1 listed with rfl | rfl
        · exact Ne.symm other
        · exact Ne.symm other'
      unfold Record.readMember
      rw [unknown]
      rfl

theorem record_read_eq {depth : Nat} {text rest : List Char} {members : List (String × Value)}
    (read : readValue depth text = .ok (.object members, rest))
    (tagged : ∀ elements, ("retention", .array elements) ∉ members) :
    record.read depth text =
      (members.foldlM takeMember ({}, [])).map fun acc => (acc.1, rest) := by
  cases written_of_readValue read with
  | scalar kind closed => exact absurd rfl closed.2
  | @object depth text inside rest members kind lists within =>
    have folded := lists.foldMembersWithin_eq
      (fun key value listed acc behind after left colon one =>
        readMember_eq acc colon one (by
          rintro rfl elements rfl
          exact tagged elements listed)) within ({}, [])
    rw [Record.read, kind]
    show record.readObject depth inside = _
    rw [Record.readObject, foldMembers]
    show (foldMembersWithin (record.readMember depth) (inside.length + 1) true ({}, []) inside >>=
      _) = _
    rw [folded]
    cases members.foldlM takeMember ({}, []) with
    | error cause => rfl
    | ok acc => rfl

/-- **What is read as a configuration is what the members of the document say,** unless a policy is
an array. -/
theorem ofText_eq {text : String} {members : List (String × Value)}
    (whole : Value.ofText text = .ok (.object members))
    (tagged : ∀ elements, ("retention", .array elements) ∉ members) :
    ofText text = (members.foldlM takeMember ({}, [])).map Prod.fst := by
  obtain ⟨rest, read, ended⟩ := exists_read_of_ofText whole
  rw [ofText, Record.ofText, record_read_eq read tagged]
  cases members.foldlM takeMember ({}, []) with
  | error cause => rfl
  | ok acc =>
    show (readEnd rest >>= _) = _
    rw [ended]
    rfl

end Config

end Retrace
