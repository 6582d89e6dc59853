import MoVm.Machine

/-!
# Access Lists of the Shared Directory

`Acl::check_permission` of `virtio/fs.rs` decides whether a user in a group may do what is asked
for. It has three branches, and each searches the entries in its own way: for the owner the first
entry with the user's id decides, for a member of the owning group any entry with the group's id,
and for everyone else any entry with one of the two. An owner without an entry is allowed nothing
at all and everything at once, and nothing in between; that is the access list `FsState::new` makes
for the directory itself.

`checkPermission_iff` says once what is granted, and the results are read off it.

## Main results

* `every_grant_justified`: what is granted is granted by one entry, or to an owner without one.
* `checkPermission_mono_iff`: when a part of what is granted is granted as well.
* `owning_group_iff`: when belonging to the owning group takes no access away.
-/

open Lib

namespace MoVm

/-! ### Permissions -/

namespace AclPermissions

/-- `AclPermissions::READ`. -/
def read : UInt32 := 0b0001

/-- `AclPermissions::WRITE`. -/
def write : UInt32 := 0b0010

/-- `AclPermissions::EXECUTE`. -/
def execute : UInt32 := 0b0100

/-- `AclPermissions::DELETE`. -/
def delete : UInt32 := 0b1000

/-- `AclPermissions::all`. -/
def all : UInt32 := read ||| write ||| execute ||| delete

/-- `AclPermissions::contains`: all of the bits asked for are set. -/
def contains (permissions required : UInt32) : Bool :=
  permissions &&& required == required

/-- `AclPermissions::is_empty`. -/
def isEmpty (permissions : UInt32) : Bool :=
  permissions == 0

/-- A set contains another one when it has all of its bits. -/
theorem contains_iff {permissions required : UInt32} :
    contains permissions required = true ↔ permissions &&& required = required := by
  rw [contains, beq_iff_eq]

/-- What contains a set contains its subsets. -/
theorem contains_trans {p q r : UInt32} (hpq : contains p q = true) (hqr : contains q r = true) :
    contains p r = true := by
  rw [contains_iff] at hpq hqr ⊢
  calc p &&& r = p &&& (q &&& r) := by rw [hqr]
    _ = q &&& r := by rw [← UInt32.and_assoc, hpq]
    _ = r := hqr

/-- The empty set has no other subset. -/
theorem eq_zero_of_contains {r : UInt32} (h : contains 0 r = true) : r = 0 := by
  rw [contains_iff, UInt32.zero_and] at h
  exact h.symm

end AclPermissions

/-! ### The check -/

/-- `Acl::check_permission`. -/
def Acl.checkPermission (acl : Acl) (uid gid required : UInt32) : Bool :=
  if acl.owner = uid then
    match acl.entries.find? fun e => e.uid = uid with
    | some e => AclPermissions.contains e.permissions required
    | none => AclPermissions.isEmpty required || required == AclPermissions.all
  else if acl.group = gid then
    (acl.entries.filter fun e => e.gid = gid).any fun e =>
      AclPermissions.contains e.permissions required
  else
    (acl.entries.filter fun e => e.uid = uid || e.gid = gid).any fun e =>
      AclPermissions.contains e.permissions required

/-- `FsState::get_acl`. -/
def FsState.getAcl (s : FsState) (path : String) : Option Acl :=
  s.acls.lookup (Path.components path)

/-- No entry names the user. -/
def Acl.Unnamed (acl : Acl) (uid : UInt32) : Prop :=
  ∀ e ∈ acl.entries, e.uid ≠ uid

/-- A user is not named when the search for an entry of theirs finds none. -/
theorem Acl.unnamed_iff {acl : Acl} {uid : UInt32} :
    acl.Unnamed uid ↔ (acl.entries.find? fun e => e.uid = uid) = none := by
  simp only [Unnamed, List.find?_eq_none, decide_eq_true_eq]

/-- **What is granted**: to the owner, what the first entry with their id contains, or the empty
and the full set if there is none; to everyone else, what some entry with their group contains, or
with their id unless they are in the owning group. -/
theorem Acl.checkPermission_iff {acl : Acl} {uid gid required : UInt32} :
    acl.checkPermission uid gid required = true ↔
      (acl.owner = uid ∧ ∃ e, (acl.entries.find? fun e => e.uid = uid) = some e ∧
        AclPermissions.contains e.permissions required = true) ∨
      (acl.owner = uid ∧ acl.Unnamed uid ∧ (required = 0 ∨ required = AclPermissions.all)) ∨
      (acl.owner ≠ uid ∧ ∃ e ∈ acl.entries,
        (e.gid = gid ∨ (acl.group ≠ gid ∧ e.uid = uid)) ∧
        AclPermissions.contains e.permissions required = true) := by
  rw [checkPermission]
  by_cases howner : acl.owner = uid
  · rw [if_pos howner, unnamed_iff]
    cases hfind : acl.entries.find? fun e => decide (e.uid = uid) with
    | none => simp [howner, AclPermissions.isEmpty]
    | some e => simp [howner]
  simp only [howner, false_and, false_or, ne_eq, not_false_eq_true, true_and]
  by_cases hgroup : acl.group = gid
  · simp [hgroup]
  · simp [hgroup, or_comm]

/-! ### Justification -/

/-- **Every grant is justified**: what is granted is contained in one entry that names the user or
the group, or it is the empty or the full set and the user is an owner whom no entry names. In
particular nothing is granted to a user who is not the owner and whom no entry names. -/
theorem every_grant_justified (acl : Acl) (uid gid required : UInt32) :
    (acl.checkPermission uid gid required = true →
      (∃ e ∈ acl.entries, (e.uid = uid ∨ e.gid = gid) ∧
        AclPermissions.contains e.permissions required = true) ∨
      (acl.owner = uid ∧ acl.Unnamed uid ∧ (required = 0 ∨ required = AclPermissions.all))) ∧
    (acl.owner ≠ uid → (∀ e ∈ acl.entries, e.uid ≠ uid ∧ e.gid ≠ gid) →
      acl.checkPermission uid gid required = false) := by
  have hjust : acl.checkPermission uid gid required = true →
      (∃ e ∈ acl.entries, (e.uid = uid ∨ e.gid = gid) ∧
        AclPermissions.contains e.permissions required = true) ∨
      (acl.owner = uid ∧ acl.Unnamed uid ∧
        (required = 0 ∨ required = AclPermissions.all)) := by
    intro h
    rcases Acl.checkPermission_iff.mp h with ⟨-, e, hfind, hcontains⟩ | hdefault |
      ⟨-, e, he, hnamed, hcontains⟩
    · have huid : e.uid = uid := by simpa using List.find?_some hfind
      exact .inl ⟨e, List.mem_of_find?_eq_some hfind, .inl huid, hcontains⟩
    · exact .inr hdefault
    · refine .inl ⟨e, he, ?_, hcontains⟩
      rcases hnamed with hgid | ⟨-, huid⟩
      · exact .inr hgid
      · exact .inl huid
  refine ⟨hjust, fun howner hnone => ?_⟩
  by_contra hgrant
  rcases hjust (Bool.not_eq_false _ ▸ hgrant) with ⟨e, he, huid | hgid, -⟩ | ⟨hown, -, -⟩
  · exact (hnone e he).1 huid
  · exact (hnone e he).2 hgid
  · exact howner hown

/-! ### Parts of what is granted -/

/-- **Asking for less**: if what is asked for is granted, so is a part of it, exactly unless all
permissions were asked for by an owner whom no entry names, and the part is neither empty nor
all. -/
theorem checkPermission_mono_iff (acl : Acl) (uid gid : UInt32) {r r' : UInt32}
    (hsub : AclPermissions.contains r r' = true) :
    (acl.checkPermission uid gid r = true → acl.checkPermission uid gid r' = true) ↔
      (acl.owner = uid → acl.Unnamed uid → r = AclPermissions.all →
        r' = 0 ∨ r' = AclPermissions.all) := by
  constructor
  · intro hmono howner hnone hall
    have hgrant := hmono (Acl.checkPermission_iff.mpr (.inr (.inl ⟨howner, hnone, .inr hall⟩)))
    rcases Acl.checkPermission_iff.mp hgrant with ⟨-, e, hfind, -⟩ | ⟨-, -, hr'⟩ | ⟨hne, -⟩
    · rw [Acl.unnamed_iff.mp hnone] at hfind
      cases hfind
    · exact hr'
    · exact absurd howner hne
  · intro hpart hgrant
    rw [Acl.checkPermission_iff] at hgrant ⊢
    rcases hgrant with ⟨howner, e, hfind, hcontains⟩ | ⟨howner, hnone, hr⟩ |
      ⟨hne, e, he, hnamed, hcontains⟩
    · exact .inl ⟨howner, e, hfind, AclPermissions.contains_trans hcontains hsub⟩
    · refine .inr (.inl ⟨howner, hnone, ?_⟩)
      rcases hr with rfl | hall
      · exact .inl (AclPermissions.eq_zero_of_contains hsub)
      · exact hpart howner hnone hall
    · exact .inr (.inr ⟨hne, e, he, hnamed, AclPermissions.contains_trans hcontains hsub⟩)

/-- An owner with an entry, and a reader. -/
def Acl.twoEntries : Acl where
  owner := 1000
  group := 1000
  entries :=
    [{ uid := 1000, gid := 1000, permissions := AclPermissions.read ||| AclPermissions.write },
      { uid := 2000, gid := 2000, permissions := AclPermissions.read }]

/-- The owner of these entries may read and write, so they may read. -/
theorem checkPermission_mono_twoEntries :
    Acl.twoEntries.checkPermission 1000 1000 AclPermissions.read = true := by
  refine (checkPermission_mono_iff Acl.twoEntries 1000 1000
    (r := AclPermissions.read ||| AclPermissions.write) (by decide)).mpr ?_ (by decide)
  intro _ hnone _
  exact absurd rfl (hnone _ List.mem_cons_self)

/-- The owner of a directory that has just been shared may do everything with it, but may not
read it. -/
theorem owner_may_not_read :
    ∃ s acl, FsState.new AttachHost.plain "/shared" none = .ok s ∧
      s.getAcl "/shared" = some acl ∧
      AclPermissions.contains AclPermissions.all AclPermissions.read = true ∧
      acl.checkPermission acl.owner acl.group AclPermissions.all = true ∧
      acl.checkPermission acl.owner acl.group AclPermissions.read = false :=
  ⟨_, _, rfl, rfl, by decide, by decide, by decide⟩

/-! ### The owning group -/

/-- **The owning group**: a user who is not the owner keeps what is granted to them when their
group becomes the owning group, exactly if an entry that names the group contains it whenever an
entry that names the user does. -/
theorem owning_group_iff {owner group uid gid : UInt32} (entries : List AclEntry)
    (required : UInt32) (huid : uid ≠ owner) (hgroup : group ≠ gid) :
    (Acl.checkPermission ⟨owner, group, entries⟩ uid gid required = true →
        Acl.checkPermission ⟨owner, gid, entries⟩ uid gid required = true) ↔
      ((∃ e ∈ entries, e.uid = uid ∧ AclPermissions.contains e.permissions required = true) →
        ∃ e ∈ entries, e.gid = gid ∧ AclPermissions.contains e.permissions required = true) := by
  have houtside : Acl.checkPermission ⟨owner, group, entries⟩ uid gid required = true ↔
      ∃ e ∈ entries, (e.gid = gid ∨ e.uid = uid) ∧
        AclPermissions.contains e.permissions required = true := by
    simp only [Acl.checkPermission_iff, huid.symm, hgroup, false_and, false_or, ne_eq,
      not_false_eq_true, true_and]
  have hinside : Acl.checkPermission ⟨owner, gid, entries⟩ uid gid required = true ↔
      ∃ e ∈ entries, e.gid = gid ∧
        AclPermissions.contains e.permissions required = true := by
    simp only [Acl.checkPermission_iff, huid.symm, false_and, false_or, ne_eq,
      not_false_eq_true, true_and, not_true_eq_false, or_false]
  rw [houtside, hinside]
  constructor
  · rintro h ⟨e, he, heq, hcontains⟩
    exact h ⟨e, he, .inr heq, hcontains⟩
  · rintro h ⟨e, he, hgid | heq, hcontains⟩
    · exact ⟨e, he, hgid, hcontains⟩
    · exact h ⟨e, he, heq, hcontains⟩

/-- A user whose own entry lets them read, and who may not read as a member of the owning
group. -/
theorem named_user_loses_access :
    let entries : List AclEntry := [{ uid := 2000, gid := 5, permissions := AclPermissions.read }]
    Acl.checkPermission ⟨1000, 7, entries⟩ 2000 2000 AclPermissions.read = true ∧
      Acl.checkPermission ⟨1000, 2000, entries⟩ 2000 2000 AclPermissions.read = false := by
  decide

/-- A user with an entry for their id and their group. -/
theorem owning_group_reader :
    Acl.checkPermission ⟨1000, 2000, Acl.twoEntries.entries⟩ 2000 2000 AclPermissions.read =
      true := by
  have houtside : Acl.checkPermission ⟨1000, 7, Acl.twoEntries.entries⟩ 2000 2000
      AclPermissions.read = true := by
    decide
  refine (owning_group_iff _ _ (by decide) (by decide)).mpr ?_ houtside
  intro _
  exact ⟨_, List.mem_cons_of_mem _ List.mem_cons_self, rfl, by decide⟩

end MoVm
