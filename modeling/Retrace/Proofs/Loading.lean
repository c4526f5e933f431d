import Mathlib.Data.List.Nodup
import Retrace.Proofs.Documents

/-!
# Which documents are loaded

A document that is an object holds a configuration if its members describe one, and it does not
matter in which order they stand. Beside the name of a policy there may be any members; only the
interval is looked at, and only if the policy has one.

The readers take the members one after another and refuse a key that is there twice. As long as no
key is, the order drops out by one argument for all three keys: what the members set under a key is
the meaning of the one value under it.

## Main definitions

* `Sets` — what the members set under a key.
* `Config.Describes` — the configuration that the members of a document describe.
* `Config.Document` — the members of a document, none of whose keys is there twice.
* `Config.Rearranged` — the same members in another order, or further members beside a policy.

## Main statements

* `Retention.ofValue_object_eq_ok_iff` — which members hold a policy.
* `Config.foldlM_takeMember_eq_ok_iff` — which members hold a configuration, valid or not.
* `Config.loaded_exactly_as_described` — a document is loaded exactly if it describes a
  configuration.
-/

namespace Retrace

namespace Json

variable {β : Type} {key : String} {mean : Value → Except ReadError β}
  {members : List (String × Value)} {value : Value} {before after : β}

/-- **What the members set under a key:** what the value under it means, or nothing. -/
def Sets (key : String) (mean : Value → Except ReadError β) (members : List (String × Value))
    (before after : β) : Prop :=
  ((∀ value, (key, value) ∉ members) ∧ after = before) ∨
    ∃ value, (key, value) ∈ members ∧ mean value = .ok after

theorem sets_of_absent (absent : ∀ value, (key, value) ∉ members) :
    Sets key mean members before after ↔ after = before := by
  constructor
  · rintro (⟨-, same⟩ | ⟨value, listed, -⟩)
    · exact same
    · exact absurd listed (absent value)
  · exact fun same => .inl ⟨absent, same⟩

theorem sets_cons_self (absent : ∀ value, (key, value) ∉ members) :
    Sets key mean ((key, value) :: members) before after ↔ mean value = .ok after := by
  constructor
  · rintro (⟨none, -⟩ | ⟨value', listed, meant⟩)
    · exact absurd List.mem_cons_self (none value)
    · rcases List.mem_cons.1 listed with same | listed
      · rwa [← (Prod.mk.inj same).2]
      · exact absurd listed (absent value')
  · exact fun meant => .inr ⟨value, List.mem_cons_self, meant⟩

theorem sets_cons_of_ne {key' : String} (other : key' ≠ key) :
    Sets key mean ((key', value) :: members) before after ↔
      Sets key mean members before after := by
  have listed_iff (value' : Value) :
      (key, value') ∈ (key', value) :: members ↔ (key, value') ∈ members := by
    rw [List.mem_cons, or_iff_right fun same => other (Prod.mk.inj same).1.symm]
  simp only [Sets, listed_iff]

/-- A key that is listed is not listed again. -/
theorem absent_of_nodup (distinct : (((key, value) :: members).map Prod.fst).Nodup) :
    ∀ value, (key, value) ∉ members :=
  fun _ listed => (List.nodup_cons.1 distinct).1 (List.mem_map.2 ⟨_, listed, rfl⟩)

end Json

open Json

/-! ### Policies -/

namespace Retention

/-- The name of a policy. -/
def Policy.name : Policy → String
  | .unbounded => "unbounded"
  | .checkpoints => "checkpoints"

theorem policyOfName_eq_ok_iff {name : String} {policy : Policy} :
    policyOfName name = .ok policy ↔ name = policy.name := by
  unfold policyOfName
  cases policy with
  | unbounded =>
    split
    · next same => exact iff_of_true rfl same
    · next other =>
      refine iff_of_false ?_ other
      split
      · nofun
      · nofun
  | checkpoints =>
    split
    · next same =>
      subst same
      exact iff_of_false nofun (by decide)
    · split
      · next same => exact iff_of_true rfl same
      · next other => exact iff_of_false nofun other

theorem policyOfValue_eq_ok_iff {value : Value} {policy : Policy} :
    policyOfValue value = .ok policy ↔ value = .string policy.name := by
  cases value with
  | string name => rw [policyOfValue, policyOfName_eq_ok_iff, Value.string.injEq]
  | null | boolean | number | array | object =>
    refine iff_of_false ?_ ?_
    · rintro ⟨⟩
    · rintro ⟨⟩

theorem foldlM_takeMember_eq_ok_iff {members : List (String × Value)}
    (distinct : (members.map Prod.fst).Nodup) {acc last : Option Policy × List (String × Value)}
    (unseen : acc.1.isSome → ∀ value, ("policy", value) ∉ members) :
    members.foldlM takeMember acc = .ok last ↔
      last.2 = acc.2 ++ members.filter (fun member => member.1 ≠ "policy") ∧
        Sets "policy" (fun value => (policyOfValue value).map some) members acc.1 last.1 := by
  induction members generalizing acc with
  | nil =>
    rw [sets_of_absent fun value => List.not_mem_nil, List.filter_nil, List.append_nil]
    show Except.ok acc = .ok last ↔ _
    rw [Except.ok.injEq, Prod.ext_iff, and_comm, eq_comm, eq_comm (a := acc.1)]
  | cons member members ih =>
    obtain ⟨key, value⟩ := member
    have absent : ∀ value, (key, value) ∉ members := absent_of_nodup distinct
    have distinct' : (members.map Prod.fst).Nodup := (List.nodup_cons.1 distinct).2
    rw [List.foldlM_cons]
    by_cases named : key = "policy"
    · subst named
      have first : ¬ acc.1.isSome = true := fun seen => unseen seen value List.mem_cons_self
      have taken : takeMember acc ("policy", value) =
          (policyOfValue value).map fun policy => (some policy, acc.2) := by
        rw [takeMember, if_pos rfl, if_neg first]
      rw [taken, sets_cons_self absent, List.filter_cons_of_neg (by simp)]
      cases policyOfValue value with
      | error cause => exact iff_of_false nofun fun both => nomatch both.2
      | ok policy =>
        show members.foldlM takeMember (some policy, acc.2) = .ok last ↔
          _ ∧ Except.ok (some policy) = .ok last.1
        rw [ih distinct' fun _ => absent, sets_of_absent absent, Except.ok.injEq,
          eq_comm (a := last.1)]
    · have taken : takeMember acc (key, value) = .ok (acc.1, acc.2 ++ [(key, value)]) :=
        if_neg named
      have unseen' : acc.1.isSome → ∀ value, ("policy", value) ∉ members :=
        fun seen value listed => unseen seen value (List.mem_cons_of_mem _ listed)
      rw [taken, sets_cons_of_ne named, List.filter_cons_of_pos (by simpa using named)]
      show members.foldlM takeMember (acc.1, acc.2 ++ [(key, value)]) = .ok last ↔ _
      rw [@ih distinct' (acc.1, acc.2 ++ [(key, value)]) unseen', List.append_assoc]
      rfl

theorem intervalOfMembers_eq_ok_iff {members : List (String × Value)}
    (distinct : (members.map Prod.fst).Nodup) {found : Option Nat}
    (unseen : found.isSome → ∀ value, ("interval", value) ∉ members) {interval : Nat} :
    intervalOfMembers found members = .ok interval ↔
      Sets "interval" (fun value => value.kind.toNatural.map some) members found
        (some interval) := by
  induction members generalizing found with
  | nil =>
    rw [sets_of_absent fun value => List.not_mem_nil]
    cases found with
    | none => exact iff_of_false nofun nofun
    | some first =>
      show Except.ok first = .ok interval ↔ _
      rw [Except.ok.injEq, Option.some.injEq, eq_comm]
  | cons member members ih =>
    obtain ⟨key, value⟩ := member
    have absent : ∀ value, (key, value) ∉ members := absent_of_nodup distinct
    have distinct' : (members.map Prod.fst).Nodup := (List.nodup_cons.1 distinct).2
    rw [intervalOfMembers]
    by_cases named : key = "interval"
    · subst named
      have first : ¬ found.isSome = true := fun seen => unseen seen value List.mem_cons_self
      rw [if_pos rfl, if_neg first, sets_cons_self absent]
      cases value.kind.toNatural with
      | error cause => exact iff_of_false nofun nofun
      | ok n =>
        show intervalOfMembers (some n) members = .ok interval ↔
          Except.ok (some n) = .ok (some interval)
        rw [ih distinct' fun _ => absent, sets_of_absent absent, Except.ok.injEq, eq_comm]
    · have unseen' : found.isSome → ∀ value, ("interval", value) ∉ members :=
        fun seen value listed => unseen seen value (List.mem_cons_of_mem _ listed)
      rw [if_neg named, ih distinct' unseen', sets_cons_of_ne named]

/-- **Which members hold a policy,** if no key is there twice. -/
theorem ofValue_object_eq_ok_iff {members : List (String × Value)}
    (distinct : (members.map Prod.fst).Nodup) {r : Retention} :
    ofValue (.object members) = .ok r ↔
      (("policy", .string "unbounded") ∈ members ∧ r = .unbounded) ∨
        ∃ interval, ("policy", .string "checkpoints") ∈ members ∧
          ("interval", .number (.natural interval)) ∈ members ∧ r = .checkpoints interval := by
  have folded := @foldlM_takeMember_eq_ok_iff members distinct (none, [])
  have found := @intervalOfMembers_eq_ok_iff (members.filter fun member => member.1 ≠ "policy")
    (distinct.sublist (List.filter_sublist.map Prod.fst)) none nofun
  constructor
  · intro read
    obtain ⟨⟨policy?, others⟩, taken, read⟩ := bind_eq_ok_iff.1 read
    obtain ⟨rest, set⟩ := (folded nofun).1 taken
    dsimp only at rest set
    rcases set with ⟨-, rfl⟩ | ⟨value, listed, meant⟩
    · cases read
    · obtain ⟨policy, named, rfl⟩ := map_eq_ok_iff.1 meant
      rw [policyOfValue_eq_ok_iff.1 named] at listed
      cases policy with
      | unbounded => exact .inl ⟨listed, (Except.ok.inj read).symm⟩
      | checkpoints =>
        obtain ⟨interval, parameter, rfl⟩ := map_eq_ok_iff.1 read
        rw [rest, List.nil_append] at parameter
        rcases found.1 parameter with ⟨-, none⟩ | ⟨value, kept, natural⟩
        · cases none
        · obtain ⟨n, natural, same⟩ := map_eq_ok_iff.1 natural
          rw [toNatural_kind_eq_ok_iff.1 natural, Option.some.inj same] at kept
          exact .inr ⟨interval, listed, (List.mem_filter.1 kept).1, rfl⟩
  · rintro (⟨listed, rfl⟩ | ⟨interval, listed, parameter, rfl⟩)
    · have taken := (@folded (some .unbounded, _) nofun).2 ⟨rfl, .inr ⟨_, listed, rfl⟩⟩
      rw [ofValue, taken]
      rfl
    · have taken := (@folded (some .checkpoints, _) nofun).2 ⟨rfl, .inr ⟨_, listed, rfl⟩⟩
      have kept : ("interval", Value.number (.natural interval)) ∈
          members.filter fun member => member.1 ≠ "policy" :=
        List.mem_filter.2 ⟨parameter, by simp⟩
      rw [ofValue, taken]
      show (intervalOfMembers none _).map _ = _
      rw [List.nil_append, found.2 (.inr ⟨_, kept, rfl⟩)]
      rfl

end Retention

/-! ### Configurations -/

namespace Config

theorem limitOfValue_eq_ok_iff {value : Value} {limit : Option Nat} :
    limitOfValue value = .ok limit ↔
      (value = .null ∧ limit = none) ∨
        ∃ n, value = .number (.natural n) ∧ limit = some n := by
  constructor
  · intro meant
    unfold limitOfValue at meant
    split at meant
    · exact .inl ⟨rfl, (Except.ok.inj meant).symm⟩
    · obtain ⟨n, natural, same⟩ := map_eq_ok_iff.1 meant
      exact .inr ⟨n, toNatural_kind_eq_ok_iff.1 natural, same.symm⟩
  · rintro (⟨rfl, rfl⟩ | ⟨n, rfl, rfl⟩)
    · rfl
    · rfl

/-- **Which members hold a configuration,** valid or not, if no key is there twice: they are all
known, and each field is what the members set under its key. -/
theorem foldlM_takeMember_eq_ok_iff {members : List (String × Value)}
    (distinct : (members.map Prod.fst).Nodup) {acc : Config × List String}
    (unseen : ∀ member ∈ members, member.1 ∉ acc.2) {c : Config} :
    (members.foldlM takeMember acc).map Prod.fst = .ok c ↔
      (∀ member ∈ members, member.1 = "retention" ∨ member.1 = "resume_limit") ∧
        Sets "retention" Retention.ofValue members acc.1.retention c.retention ∧
        Sets "resume_limit" limitOfValue members acc.1.resumeLimit c.resumeLimit := by
  induction members generalizing acc with
  | nil =>
    rw [sets_of_absent fun value => List.not_mem_nil, sets_of_absent fun value => List.not_mem_nil,
      and_iff_right fun member listed => absurd listed List.not_mem_nil]
    show Except.ok (Config.mk acc.1.retention acc.1.resumeLimit) =
      .ok (Config.mk c.retention c.resumeLimit) ↔ _
    rw [Except.ok.injEq, Config.mk.injEq, eq_comm, eq_comm (a := acc.1.resumeLimit)]
  | cons member members ih =>
    obtain ⟨key, value⟩ := member
    have absent : ∀ value, (key, value) ∉ members := absent_of_nodup distinct
    have distinct' : (members.map Prod.fst).Nodup := (List.nodup_cons.1 distinct).2
    have first : ¬ acc.2.contains key = true := by
      rw [List.contains_iff_mem]
      exact unseen _ List.mem_cons_self
    have unseen' : ∀ member ∈ members, member.1 ∉ key :: acc.2 := by
      rintro ⟨key', value'⟩ listed seen
      rcases List.mem_cons.1 seen with rfl | seen
      · exact absent value' listed
      · exact unseen _ (List.mem_cons_of_mem _ listed) seen
    rw [List.foldlM_cons, List.forall_mem_cons]
    by_cases retention : key = "retention"
    · subst retention
      have taken : takeMember acc ("retention", value) =
          (Retention.ofValue value).map fun retention =>
            ({ acc.1 with retention }, "retention" :: acc.2) := by
        rw [takeMember, if_pos rfl, if_neg first]
      have known : ("retention", value).1 = "retention" ∨
          ("retention", value).1 = "resume_limit" := .inl rfl
      rw [taken, sets_cons_self absent, sets_cons_of_ne (by decide), and_iff_right known]
      cases Retention.ofValue value with
      | error cause => exact iff_of_false nofun fun all => nomatch all.2.1
      | ok r =>
        have later := @ih distinct' ({ acc.1 with retention := r }, _) unseen'
        rw [sets_of_absent absent] at later
        refine later.trans ?_
        show _ ∧ c.retention = r ∧ _ ↔ _ ∧ Except.ok r = Except.ok c.retention ∧ _
        rw [Except.ok.injEq, eq_comm (a := r)]
    · by_cases limit : key = "resume_limit"
      · subst limit
        have taken : takeMember acc ("resume_limit", value) =
            (limitOfValue value).map fun resumeLimit =>
              ({ acc.1 with resumeLimit }, "resume_limit" :: acc.2) := by
          rw [takeMember, if_neg retention, if_pos rfl, if_neg first]
        have known : ("resume_limit", value).1 = "retention" ∨
            ("resume_limit", value).1 = "resume_limit" := .inr rfl
        rw [taken, sets_cons_self absent, sets_cons_of_ne retention, and_iff_right known]
        cases limitOfValue value with
        | error cause => exact iff_of_false nofun fun all => nomatch all.2.2
        | ok n =>
          have later := @ih distinct' ({ acc.1 with resumeLimit := n }, _) unseen'
          rw [sets_of_absent absent] at later
          refine later.trans ?_
          show _ ∧ _ ∧ c.resumeLimit = n ↔ _ ∧ _ ∧ Except.ok n = Except.ok c.resumeLimit
          rw [Except.ok.injEq, eq_comm (a := n)]
      · have taken : takeMember acc (key, value) = .error (.unknownField key record.names) := by
          rw [takeMember, if_neg retention, if_neg limit]
        rw [taken]
        exact iff_of_false nofun fun all => all.1.1.elim retention limit

/-! ### Documents -/

/-- **The policy that the members of a document describe.** -/
inductive DescribesRetention (members : List (String × Value)) : Retention → Prop
  | default (absent : ∀ value, ("retention", value) ∉ members) :
      DescribesRetention members .unbounded
  | unbounded {inside : List (String × Value)} (object : ("retention", .object inside) ∈ members)
      (policy : ("policy", .string "unbounded") ∈ inside) : DescribesRetention members .unbounded
  | checkpoints {inside : List (String × Value)} {interval : Nat}
      (object : ("retention", .object inside) ∈ members)
      (policy : ("policy", .string "checkpoints") ∈ inside)
      (parameter : ("interval", .number (.natural interval)) ∈ inside) (positive : 1 ≤ interval)
      (within : interval ≤ Index.maxIndex) : DescribesRetention members (.checkpoints interval)

/-- **The limit that the members of a document describe.** -/
inductive DescribesLimit (members : List (String × Value)) : Option Nat → Prop
  | default (absent : ∀ value, ("resume_limit", value) ∉ members) : DescribesLimit members none
  | null (listed : ("resume_limit", .null) ∈ members) : DescribesLimit members none
  | limit {n : Nat} (listed : ("resume_limit", .number (.natural n)) ∈ members) (positive : 1 ≤ n)
      (within : n ≤ Index.maxIndex) : DescribesLimit members (some n)

/-- **The configuration that the members of a document describe.** There are no others. -/
structure Describes (members : List (String × Value)) (c : Config) : Prop where
  known : ∀ member ∈ members, member.1 = "retention" ∨ member.1 = "resume_limit"
  retention : DescribesRetention members c.retention
  resumeLimit : DescribesLimit members c.resumeLimit

/-- **A document that is an object with these members.** No key is there twice, neither in the
object nor in a policy, and a policy is not an array. -/
structure Document (text : String) (members : List (String × Value)) : Prop where
  whole : Value.ofText text = .ok (.object members)
  distinct : (members.map Prod.fst).Nodup
  tagged : ∀ elements, ("retention", .array elements) ∉ members
  distinctInside : ∀ inside, ("retention", .object inside) ∈ members →
    (inside.map Prod.fst).Nodup

section

variable {text : String} {members : List (String × Value)}

theorem ofJson_eq_ok_iff {c : Config} :
    ofJson text = .ok c ↔ ofText text = .ok c ∧ c.isValid = true := by
  unfold ofJson
  cases ofText text with
  | error cause => exact iff_of_false nofun fun both => nomatch both.1
  | ok d =>
    dsimp only
    rw [Except.ok.injEq]
    unfold validated
    split
    · next valid =>
      show Except.ok d = .ok c ↔ _
      rw [Except.ok.injEq]
      exact ⟨fun same => ⟨same, same ▸ valid⟩, And.left⟩
    · next invalid => exact iff_of_false nofun fun both => invalid (both.1 ▸ both.2)

/-- Every member of a document is a value that was read. -/
theorem Document.exists_read (document : Document text members) {key : String} {value : Value}
    (listed : (key, value) ∈ members) :
    ∃ depth text rest, readValue depth text = .ok (value, rest) := by
  obtain ⟨rest, read, -⟩ := exists_read_of_ofText document.whole
  exact exists_read_of_member read listed

theorem sets_retention_iff (document : Document text members) {r : Retention} :
    Sets "retention" Retention.ofValue members .unbounded r ∧ r ≠ .checkpoints 0 ↔
      DescribesRetention members r := by
  constructor
  · rintro ⟨⟨absent, rfl⟩ | ⟨value, listed, meant⟩, apart⟩
    · exact .default absent
    · cases value with
      | object inside =>
        have distinct := document.distinctInside inside listed
        rcases (Retention.ofValue_object_eq_ok_iff distinct).1 meant with
          ⟨policy, rfl⟩ | ⟨interval, policy, parameter, rfl⟩
        · exact .unbounded listed policy
        · obtain ⟨depth, text, rest, read⟩ := document.exists_read listed
          obtain ⟨depth', text', rest', literal⟩ := exists_read_of_member read parameter
          have positive : interval ≠ 0 := fun zero => apart (congrArg _ zero)
          exact .checkpoints listed policy parameter (Nat.one_le_iff_ne_zero.2 positive)
            (readValue_eq_natural_iff.1 literal).2.1
      | null | boolean | number | string | array => cases meant
  · intro described
    cases described with
    | default absent => exact ⟨.inl ⟨absent, rfl⟩, nofun⟩
    | unbounded object policy =>
      have meant := (Retention.ofValue_object_eq_ok_iff (document.distinctInside _ object)).2
        (.inl ⟨policy, rfl⟩)
      exact ⟨.inr ⟨_, object, meant⟩, nofun⟩
    | checkpoints object policy parameter positive within =>
      have meant := (Retention.ofValue_object_eq_ok_iff (document.distinctInside _ object)).2
        (.inr ⟨_, policy, parameter, rfl⟩)
      refine ⟨.inr ⟨_, object, meant⟩, fun zero => ?_⟩
      exact absurd (Retention.checkpoints.inj zero) (Nat.one_le_iff_ne_zero.1 positive)

theorem sets_resumeLimit_iff (document : Document text members) {limit : Option Nat} :
    Sets "resume_limit" limitOfValue members none limit ∧ limit ≠ some 0 ↔
      DescribesLimit members limit := by
  constructor
  · rintro ⟨⟨absent, rfl⟩ | ⟨value, listed, meant⟩, some⟩
    · exact .default absent
    · rcases limitOfValue_eq_ok_iff.1 meant with ⟨rfl, rfl⟩ | ⟨n, rfl, rfl⟩
      · exact .null listed
      · obtain ⟨depth, text, rest, literal⟩ := document.exists_read listed
        have positive : n ≠ 0 := fun zero => some (congrArg _ zero)
        exact .limit listed (Nat.one_le_iff_ne_zero.2 positive)
          (readValue_eq_natural_iff.1 literal).2.1
  · intro described
    cases described with
    | default absent => exact ⟨.inl ⟨absent, rfl⟩, nofun⟩
    | null listed => exact ⟨.inr ⟨_, listed, rfl⟩, nofun⟩
    | limit listed positive within =>
      refine ⟨.inr ⟨_, listed, rfl⟩, fun zero => ?_⟩
      exact absurd (Option.some.inj zero) (Nat.one_le_iff_ne_zero.1 positive)

theorem ofJson_eq_ok_iff_describes (document : Document text members) {c : Config} :
    ofJson text = .ok c ↔ Describes members c := by
  have fields := @foldlM_takeMember_eq_ok_iff members document.distinct ({}, [])
    (fun _ _ => List.not_mem_nil) c
  rw [ofJson_eq_ok_iff, ofText_eq document.whole document.tagged, fields, isValid_iff]
  have retention := @sets_retention_iff text members document c.retention
  have resumeLimit := @sets_resumeLimit_iff text members document c.resumeLimit
  constructor
  · rintro ⟨⟨known, policy, limit⟩, apart, some⟩
    exact ⟨known, retention.1 ⟨policy, apart⟩, resumeLimit.1 ⟨limit, some⟩⟩
  · rintro ⟨known, policy, limit⟩
    obtain ⟨policy, apart⟩ := retention.2 policy
    obtain ⟨limit, some⟩ := resumeLimit.2 limit
    exact ⟨⟨known, policy, limit⟩, apart, some⟩

end

/-! ### Order -/

/-- **What is looked at in a policy is there in another one as well:** its name, and the interval if
it has one. -/
structure Repeats (inside inside' : List (String × Value)) : Prop where
  policy : ∀ value, ("policy", value) ∈ inside → ("policy", value) ∈ inside'
  interval : ("policy", .string "checkpoints") ∈ inside →
    ∀ value, ("interval", value) ∈ inside → ("interval", value) ∈ inside'

/-- **The same document, rearranged:** its members are in another order, or those of its policy are
as well, with further members that are nothing to the policy. -/
inductive Rearranged (members members' : List (String × Value)) : Prop
  | order (same : members.Perm members')
  | inside {inside further inside' others : List (String × Value)}
      (before : members.Perm (("retention", .object inside) :: others))
      (after : members'.Perm (("retention", .object inside') :: others))
      (more : inside'.Perm (inside ++ further))
      (unread : ∀ member ∈ further, member.1 ≠ "policy" ∧
        (member.1 = "interval" → ("policy", .string "unbounded") ∈ inside))

section

variable {members members' inside inside' others : List (String × Value)}

theorem DescribesRetention.congr {r : Retention}
    (absent : (∀ value, ("retention", value) ∉ members) → ∀ value, ("retention", value) ∉ members')
    (objects : ∀ inside, ("retention", .object inside) ∈ members →
      ∃ inside', ("retention", .object inside') ∈ members' ∧ Repeats inside inside')
    (described : DescribesRetention members r) : DescribesRetention members' r := by
  cases described with
  | default none => exact .default (absent none)
  | unbounded object policy =>
    obtain ⟨inside', object', repeats⟩ := objects _ object
    exact .unbounded object' (repeats.policy _ policy)
  | checkpoints object policy parameter positive within =>
    obtain ⟨inside', object', repeats⟩ := objects _ object
    exact .checkpoints object' (repeats.policy _ policy) (repeats.interval policy _ parameter)
      positive within

theorem DescribesLimit.congr {limit : Option Nat}
    (same : ∀ value, ("resume_limit", value) ∈ members ↔ ("resume_limit", value) ∈ members')
    (described : DescribesLimit members limit) : DescribesLimit members' limit := by
  cases described with
  | default absent => exact .default fun value listed => absent value ((same value).2 listed)
  | null listed => exact .null ((same _).1 listed)
  | limit listed positive within => exact .limit ((same _).1 listed) positive within

theorem Describes.perm {c : Config} (same : members.Perm members')
    (described : Describes members c) : Describes members' c where
  known member listed := described.known member (same.mem_iff.2 listed)
  retention := described.retention.congr
    (fun absent _ listed => absent _ (same.mem_iff.2 listed))
    fun inside object => ⟨inside, same.mem_iff.1 object, fun _ named => named, fun _ _ held => held⟩
  resumeLimit := described.resumeLimit.congr fun _ => same.mem_iff

theorem Describes.replace {c : Config} (alone : ∀ value, ("retention", value) ∉ others)
    (repeats : Repeats inside inside')
    (described : Describes (("retention", .object inside) :: others) c) :
    Describes (("retention", .object inside') :: others) c := by
  obtain ⟨known, retention, resumeLimit⟩ := described
  refine ⟨?_, retention.congr ?_ ?_, resumeLimit.congr fun value => ?_⟩
  · rw [List.forall_mem_cons] at known ⊢
    exact ⟨.inl rfl, known.2⟩
  · exact fun absent => absurd List.mem_cons_self (absent _)
  · intro inside₀ object
    rcases List.mem_cons.1 object with same | listed
    · obtain ⟨-, same⟩ := Prod.mk.inj same
      rw [Value.object.inj same]
      exact ⟨inside', List.mem_cons_self, repeats⟩
    · exact absurd listed (alone _)
  · have other : ∀ policy, ("resume_limit", value) ≠ ("retention", policy) :=
      fun policy same => absurd (Prod.mk.inj same).1 (by decide)
    rw [List.mem_cons, List.mem_cons, or_iff_right (other _), or_iff_right (other _)]

/-- Further members that are nothing to a policy leave what is looked at in it. -/
theorem repeats_of_further {further : List (String × Value)}
    (distinct : (inside'.map Prod.fst).Nodup) (more : inside'.Perm (inside ++ further))
    (unread : ∀ member ∈ further, member.1 ≠ "policy" ∧
      (member.1 = "interval" → ("policy", .string "unbounded") ∈ inside)) :
    Repeats inside inside' ∧ Repeats inside' inside := by
  have kept : ∀ {member}, member ∈ inside → member ∈ inside' :=
    fun listed => more.mem_iff.2 (List.mem_append_left _ listed)
  refine ⟨⟨fun value => kept, fun _ value => kept⟩, ⟨?_, ?_⟩⟩
  · intro value listed
    rcases List.mem_append.1 (more.mem_iff.1 listed) with listed | added
    · exact listed
    · exact absurd rfl (unread _ added).1
  · intro apart value listed
    rcases List.mem_append.1 (more.mem_iff.1 listed) with listed | added
    · exact listed
    · -- an interval is added only beside a policy that is not the one with an interval
      have everything := kept ((unread _ added).2 rfl)
      have same := List.inj_on_of_nodup_map distinct apart everything rfl
      exact absurd (Value.string.inj (Prod.mk.inj same).2) (by decide)

/-- **A rearranged document describes the same.** -/
theorem Rearranged.describes_iff {text text' : String} {c : Config}
    (rearranged : Rearranged members members') (document : Document text members)
    (document' : Document text' members') : Describes members' c ↔ Describes members c := by
  cases rearranged with
  | order same => exact ⟨Describes.perm same.symm, Describes.perm same⟩
  | @inside inside further inside' others before after more unread =>
    have alone : ∀ value, ("retention", value) ∉ others :=
      absent_of_nodup ((before.map Prod.fst).nodup_iff.1 document.distinct)
    have distinct := document'.distinctInside inside' (after.mem_iff.2 List.mem_cons_self)
    obtain ⟨forth, back⟩ := repeats_of_further distinct more unread
    constructor
    · exact fun described => ((described.perm after).replace alone back).perm before.symm
    · exact fun described => ((described.perm before).replace alone forth).perm after.symm

end

/-! ### Loading -/

/-- **A document is loaded exactly if it describes a configuration.** Let a text be a document that
is an object, where no key is there twice and a policy is not an array. Then it is loaded as a
configuration if and only if there are no other members than a policy and a limit, the policy is
missing or an object that names one and holds the interval that goes with it, and the limit is
missing or null or given; intervals and limits are unsigned integers from one to the largest index.

So a document that only differs in the order of its members, or of those of its policy, or has
further members beside the policy, is loaded as the same configuration, or just as little.

That a value is an unsigned integer means that its text is a literal: decimal digits without a
superfluous zero, and neither sign nor fraction nor exponent. -/
theorem loaded_exactly_as_described {text : String} {members : List (String × Value)}
    (document : Document text members) :
    (∀ c, ofJson text = .ok c ↔ Describes members c) ∧
    (∀ (text' : String) (members' : List (String × Value)), Document text' members' →
      Rearranged members members' → ∀ c, ofJson text' = .ok c ↔ ofJson text = .ok c) ∧
    ∀ (depth : Nat) (written rest : List Char) (n : Nat),
      readValue depth written = .ok (.number (.natural n), rest) ↔
        skipBlanks written = printNatural n ++ rest ∧ n ≤ Index.maxIndex ∧ EndsNumber rest := by
  refine ⟨fun c => ofJson_eq_ok_iff_describes document, ?_,
    fun depth written rest n => readValue_eq_natural_iff⟩
  intro text' members' document' rearranged c
  rw [ofJson_eq_ok_iff_describes document', ofJson_eq_ok_iff_describes document]
  exact rearranged.describes_iff document document'

/-- With the limit in front, and an interval before the name of a policy that has none, a document
is loaded as before. An interval of zero beside a policy that has one is not loaded, though it is an
unsigned integer as well. -/
theorem loaded_exactly_as_described_in_any_order :
    let c : Config := { retention := .unbounded, resumeLimit := some 3 }
    ofJson "\x7b\"retention\":\x7b\"policy\":\"unbounded\"\x7d,\"resume_limit\":3\x7d" = .ok c ∧
      ofJson
        "\x7b\"resume_limit\":3,\"retention\":\x7b\"interval\":[],\"policy\":\"unbounded\"\x7d\x7d"
        = .ok c ∧
      ∀ d, ofJson "\x7b\"retention\":\x7b\"policy\":\"checkpoints\",\"interval\":0\x7d\x7d" ≠
        .ok d := by
  intro c
  let policy : String × Value := ("policy", .string "unbounded")
  let interval : String × Value := ("interval", .array [])
  let limit : String × Value := ("resume_limit", .number (.natural 3))
  let members := [("retention", .object [policy]), limit]
  let members' := [limit, ("retention", .object [interval, policy])]
  let zero : String × Value := ("interval", .number (.natural 0))
  let refused : List (String × Value) :=
    [("retention", .object [("policy", .string "checkpoints"), zero])]
  have document : ∀ {text}, Value.ofText text = .ok (.object members) → Document text members :=
    fun whole => ⟨whole, by decide, by simp [members, limit], by simp [members, limit]⟩
  have document' : ∀ {text}, Value.ofText text = .ok (.object members') →
      Document text members' :=
    fun whole => ⟨whole, by decide, by simp [members', limit],
      by simp [members', limit, interval, policy]⟩
  have document₀ : ∀ {text}, Value.ofText text = .ok (.object refused) → Document text refused :=
    fun whole => ⟨whole, by decide, by simp [refused], by simp [refused, zero]⟩
  have described : Describes members c :=
    ⟨by simp [members, limit], .unbounded List.mem_cons_self List.mem_cons_self,
      .limit (by simp [members, limit]) (by decide) (by decide)⟩
  have rearranged : Rearranged members members' :=
    .inside (.refl _) (.swap _ _ _) (.swap _ _ _ : [interval, policy].Perm ([policy] ++ [interval]))
      (by simp [interval, policy])
  have undescribed : ∀ r, ¬ DescribesRetention refused r := by
    intro r described
    cases described with
    | default absent => exact absent _ List.mem_cons_self
    | @unbounded inside object policy =>
      obtain rfl : inside = [("policy", .string "checkpoints"), zero] := by
        simpa [refused] using object
      simp [zero] at policy
    | @checkpoints inside interval object policy parameter positive within =>
      obtain rfl : inside = [("policy", .string "checkpoints"), zero] := by
        simpa [refused] using object
      have none : interval = 0 := by simpa [zero] using parameter
      omega
  have both : ∀ text text', Value.ofText text = .ok (.object members) →
      Value.ofText text' = .ok (.object members') → ofJson text = .ok c ∧ ofJson text' = .ok c := by
    intro text text' whole whole'
    obtain ⟨loaded, likewise, -⟩ := loaded_exactly_as_described (document whole)
    have first := (loaded c).2 described
    exact ⟨first, (likewise text' members' (document' whole') rearranged c).2 first⟩
  refine and_assoc.1 ⟨both _ _ rfl rfl, fun d loaded => ?_⟩
  exact undescribed _ (((loaded_exactly_as_described (document₀ rfl)).1 d).1 loaded).retention

end Config

end Retrace
