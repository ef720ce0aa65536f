import Hyperbridge.Grandpa.Justification

/-!
# The ancestries a justification comes with

A justification is built with the headers on the way from every precommit target down to the lowest one, without that of
the lowest target itself. `ancestry` ends its routes with the base, so the verifier asks for that header too as soon as
there is a vote for another block. Its loop ends because parent links do not go in circles.
-/

namespace Hyperbridge.Grandpa

open Lib

variable {Header VoterSet : Type} {E : Runtime Header VoterSet} {J : GrandpaJustification Header} {setId : UInt64}
  {voters : VoterSet} {base : H256}

def OnPath (E : Runtime Header VoterSet) (J : GrandpaJustification Header) (base h : H256) : Prop :=
  ∃ signed ∈ J.commit.precommits, ∃ l, Path E J base signed.precommit.targetHash l ∧ h ∈ l

structure AncestriesWith (E : Runtime Header VoterSet) (J : GrandpaJustification Header) (base : H256)
    (more : H256 → Prop) : Prop where
  leads : ∀ signed ∈ J.commit.precommits, ∃ l, Path E J base signed.precommit.targetHash l
  exact : ∀ h, h ∈ J.votesAncestries.map E.hash ↔ OnPath E J base h ∨ more h

def HonestAncestries (E : Runtime Header VoterSet) (J : GrandpaJustification Header) : Prop :=
  ∃ base, lowest J.commit = some base ∧ AncestriesWith E J base.targetHash fun _ => False

/-- The ancestries with the header of the lowest target. -/
def BaseIncluded (E : Runtime Header VoterSet) (J : GrandpaJustification Header) : Prop :=
  ∃ base, lowest J.commit = some base ∧ AncestriesWith E J base.targetHash fun h => h = base.targetHash

def OneTarget (commit : Commit) : Prop :=
  ∀ signed ∈ commit.precommits, ∀ signed' ∈ commit.precommits,
    signed.precommit.targetHash = signed'.precommit.targetHash

theorem lowest_mem {commit : Commit} {base : Precommit} (h : lowest commit = some base) :
    ∃ signed ∈ commit.precommits, signed.precommit = base :=
  List.mem_map.mp (List.argmin_mem h)

theorem oneTarget_iff {base : Precommit} (h : lowest J.commit = some base) :
    OneTarget J.commit ↔ ∀ signed ∈ J.commit.precommits, signed.precommit.targetHash = base.targetHash := by
  obtain ⟨first, hfirst, rfl⟩ := lowest_mem h
  constructor
  · intro hone signed hs
    exact hone signed hs first hfirst
  · intro hall signed hs signed' hs'
    rw [hall signed hs, hall signed' hs']

theorem exists_target_ne {base : Precommit} (h : lowest J.commit = some base) (hone : ¬ OneTarget J.commit) :
    ∃ signed ∈ J.commit.precommits, signed.precommit.targetHash ≠ base.targetHash := by
  rw [oneTarget_iff h] at hone
  push Not at hone
  exact hone

theorem base_not_onPath : ¬ OnPath E J base base := by
  rintro ⟨signed, -, l, hpath, hmem⟩
  exact hpath.goal_not_mem hmem

theorem path_base : Path E J base base [] := .stop (.inl rfl)

theorem exists_onTrail_iff (hleads : ∀ signed ∈ J.commit.precommits, ∃ l, Path E J base signed.precommit.targetHash l)
    (h : H256) :
    (∃ signed ∈ J.commit.precommits, OnTrail E J base signed h) ↔ OnPath E J base h ∨
        ((∃ signed ∈ J.commit.precommits, signed.precommit.targetHash ≠ base) ∧ h = base) := by
  constructor
  · rintro ⟨signed, hs, htarget, l, hpath, hmem | rfl⟩
    · exact .inl ⟨signed, hs, l, hpath, hmem⟩
    · exact .inr ⟨⟨signed, hs, htarget⟩, rfl⟩
  · rintro (⟨signed, hs, l, hpath, hmem⟩ | ⟨⟨signed, hs, htarget⟩, rfl⟩)
    · refine ⟨signed, hs, fun htarget => ?_, l, hpath, .inl hmem⟩
      -- a vote for the base has nothing on its way
      rw [htarget] at hpath
      obtain ⟨rfl, -⟩ := hpath.unique path_base
      cases hmem
    · obtain ⟨l, hpath⟩ := hleads signed hs
      exact ⟨signed, hs, htarget, l, hpath, .inr rfl⟩

theorem ancestryExact_iff :
    AncestryExact E J base ↔
      AncestriesWith E J base fun h => (∃ signed ∈ J.commit.precommits, signed.precommit.targetHash ≠ base) ∧
        h = base := by
  constructor
  · rintro ⟨hleads, hexact⟩
    have hall : ∀ signed ∈ J.commit.precommits, ∃ l, Path E J base signed.precommit.targetHash l := by
      intro signed hs
      by_cases htarget : signed.precommit.targetHash = base
      · rw [htarget]
        exact ⟨[], path_base⟩
      · exact hleads signed hs htarget
    refine ⟨hall, fun h => ?_⟩
    rw [hexact, exists_onTrail_iff hall]
  · rintro ⟨hall, hexact⟩
    refine ⟨fun signed hs _ => hall signed hs, fun h => ?_⟩
    rw [hexact, exists_onTrail_iff hall]

theorem AncestriesWith.congr {more more' : H256 → Prop} (hmore : ∀ h, more h ↔ more' h) :
    AncestriesWith E J base more ↔ AncestriesWith E J base more' := by
  obtain rfl : more = more' := funext fun h => propext (hmore h)
  rfl

section Accepted

variable (haccepted : CommitAccepted E J voters)
  (hsignatures : ∀ signed ∈ J.commit.precommits, checkMessageSignature E signed J.round setId = .ok ())

include haccepted hsignatures

theorem verifyWithVoterSet_ok_iff_exact :
    verifyWithVoterSet E J setId voters = .ok () ↔
      ∃ base, lowest J.commit = some base ∧ AncestryExact E J base.targetHash := by
  rw [verifyWithVoterSet_ok]
  constructor
  · rintro ⟨-, base, hbase, hexact, -⟩
    exact ⟨base, hbase, hexact⟩
  · rintro ⟨base, hbase, hexact⟩
    exact ⟨haccepted, base, hbase, hexact, fun signed hs => checkMessageSignature_ok.mp (hsignatures signed hs)⟩

theorem verifyWithVoterSet_ok_of_oneTarget (hone : OneTarget J.commit) :
    verifyWithVoterSet E J setId voters = .ok () ↔ HonestAncestries E J := by
  rw [verifyWithVoterSet_ok_iff_exact haccepted hsignatures]
  refine exists_congr fun base => and_congr_right fun hbase => ?_
  rw [ancestryExact_iff]
  refine AncestriesWith.congr fun h => ⟨?_, False.elim⟩
  rintro ⟨⟨signed, hs, htarget⟩, -⟩
  exact htarget ((oneTarget_iff hbase).mp hone signed hs)

theorem verifyWithVoterSet_ok_of_not_oneTarget (hone : ¬ OneTarget J.commit) :
    verifyWithVoterSet E J setId voters = .ok () ↔ BaseIncluded E J := by
  rw [verifyWithVoterSet_ok_iff_exact haccepted hsignatures]
  refine exists_congr fun base => and_congr_right fun hbase => ?_
  rw [ancestryExact_iff]
  exact AncestriesWith.congr fun h => and_iff_right (exists_target_ne hbase hone)

theorem verifyWithVoterSet_honest (hone : ¬ OneTarget J.commit) (hhonest : HonestAncestries E J) :
    verifyWithVoterSet E J setId voters =
      .error (.error "invalid precommit ancestries in grandpa justification with unused headers") := by
  obtain ⟨base, hbase, hleads, hexact⟩ := hhonest
  have hbelow := exists_target_ne hbase hone
  have hloop : J.commit.precommits.foldlM (visit E J setId base.targetHash) ∅ =
      .ok (insert base.targetHash (J.votesAncestries.map E.hash).toFinset) := by
    refine foldlM_visit_ok.mpr ⟨fun signed hs =>
      ⟨checkMessageSignature_ok.mp (hsignatures signed hs), fun _ => hleads signed hs⟩, fun h => ?_⟩
    rw [exists_onTrail_iff hleads, Finset.mem_insert, List.mem_toFinset, hexact]
    simp [hbelow, or_comm]
  have hmissing : base.targetHash ∉ (J.votesAncestries.map E.hash).toFinset := by
    rw [List.mem_toFinset, hexact, or_false]
    exact base_not_onPath
  have hdiffer : insert base.targetHash (J.votesAncestries.map E.hash).toFinset ≠
      (J.votesAncestries.map E.hash).toFinset := by
    rw [ne_eq, Finset.insert_eq_self]
    exact hmissing
  rw [verifyWithVoterSet, checkCommit_ok.mpr haccepted, hbase]
  dsimp only [bind, Except.bind]
  rw [hloop]
  exact if_pos hdiffer

/-- Honest ancestries are accepted exactly if all votes are for one block. Otherwise they are refused, and accepted are
those that have the header of the lowest target besides. -/
theorem honest_ancestries_accepted_iff :
    (OneTarget J.commit → (verifyWithVoterSet E J setId voters = .ok () ↔ HonestAncestries E J)) ∧
      (¬ OneTarget J.commit → (verifyWithVoterSet E J setId voters = .ok () ↔ BaseIncluded E J) ∧
        (HonestAncestries E J → verifyWithVoterSet E J setId voters =
          .error (.error "invalid precommit ancestries in grandpa justification with unused headers"))) := by
  refine ⟨verifyWithVoterSet_ok_of_oneTarget haccepted hsignatures, fun hone => ⟨?_, ?_⟩⟩
  · exact verifyWithVoterSet_ok_of_not_oneTarget haccepted hsignatures hone
  · exact verifyWithVoterSet_honest haccepted hsignatures hone

end Accepted

def childRuntime : Runtime H256 AuthorityList :=
  { sampleRuntime with
    parentHash := fun h => if h = BytesN.ofNat 32 8 then BytesN.ofNat 32 7 else BytesN.zero 32
    validateCommit := fun commit voters headers =>
      let votes := commit.precommits.filter fun signed =>
        (commit.targetHash :: headers).contains signed.precommit.targetHash
      let strangers := commit.precommits.filter fun signed => !(voters.map Prod.fst).contains signed.id
      some ⟨decide (supermajority voters ≤ weightOf voters (votes.map (·.id)).toFinset), commit.precommits.length, 0, 0,
        strangers.length⟩ }

def childKey : AuthorityId :=
  BytesN.ofNat 32 0x3d4017c3e843895a92b70aa74d1b7ebc9c982ccf2ec4968cc0cd55f12af4660c

def bothKeys : AuthorityList := [(sampleKey, 1), (childKey, 1)]

/-- A vote for block 7 and one for its child, block 8. -/
def twoVotes (votesAncestries : List H256) : GrandpaJustification H256 where
  round := 1
  commit :=
    { targetHash := BytesN.ofNat 32 7
      targetNumber := 100
      precommits :=
        [⟨⟨BytesN.ofNat 32 7, 100⟩, sampleSignature, sampleKey⟩,
          ⟨⟨BytesN.ofNat 32 8, 101⟩, sampleSignature, childKey⟩] }
  votesAncestries := votesAncestries

theorem twoVotes_accepted : CommitAccepted childRuntime (twoVotes [BytesN.ofNat 32 8]) bothKeys :=
  ⟨⟨true, 2, 0, 0, 0⟩, by decide +kernel, rfl, rfl, rfl, rfl⟩

theorem twoVotes_signatures (headers : List H256) :
    ∀ signed ∈ (twoVotes headers).commit.precommits,
      checkMessageSignature childRuntime signed (twoVotes headers).round 0 = .ok () := by
  have h : ∀ signed ∈ (twoVotes []).commit.precommits,
      checkMessageSignature childRuntime signed (twoVotes []).round 0 = .ok () := by decide +kernel
  exact h

theorem twoVotes_not_oneTarget (headers : List H256) : ¬ OneTarget (twoVotes headers).commit := by
  intro hone
  have h := hone _ List.mem_cons_self _ (List.mem_cons_of_mem _ List.mem_cons_self)
  exact absurd h (by decide +kernel)

theorem twoVotes_path :
    Path childRuntime (twoVotes [BytesN.ofNat 32 8]) (BytesN.ofNat 32 7) (BytesN.ofNat 32 8) [BytesN.ofNat 32 8] :=
  .step (by decide +kernel) (by decide +kernel) path_base

theorem twoVotes_honest : HonestAncestries childRuntime (twoVotes [BytesN.ofNat 32 8]) := by
  refine ⟨⟨BytesN.ofNat 32 7, 100⟩, by decide +kernel, fun signed hs => ?_, fun h => ?_⟩
  · rcases List.mem_pair.mp hs with rfl | rfl
    · exact ⟨[], path_base⟩
    · exact ⟨_, twoVotes_path⟩
  · rw [or_false]
    constructor
    · intro hmem
      exact ⟨_, List.mem_cons_of_mem _ List.mem_cons_self, _, twoVotes_path, hmem⟩
    · rintro ⟨signed, hs, l, hpath, hmem⟩
      rcases List.mem_pair.mp hs with rfl | rfl
      · obtain ⟨rfl, -⟩ := hpath.unique path_base
        cases hmem
      · obtain ⟨rfl, -⟩ := hpath.unique twoVotes_path
        exact hmem

/-- With the header of the child alone the justification is refused; with that of the lower target too it is accepted.
-/
theorem honest_ancestries_refused :
    CommitAccepted childRuntime (twoVotes [BytesN.ofNat 32 8]) bothKeys ∧
      (∀ signed ∈ (twoVotes [BytesN.ofNat 32 8]).commit.precommits,
        checkMessageSignature childRuntime signed (twoVotes [BytesN.ofNat 32 8]).round 0 = .ok ()) ∧
      HonestAncestries childRuntime (twoVotes [BytesN.ofNat 32 8]) ∧
      verifyWithVoterSet childRuntime (twoVotes [BytesN.ofNat 32 8]) 0 bothKeys =
        .error (.error "invalid precommit ancestries in grandpa justification with unused headers") ∧
      verifyWithVoterSet childRuntime (twoVotes [BytesN.ofNat 32 8, BytesN.ofNat 32 7]) 0 bothKeys = .ok () :=
  ⟨twoVotes_accepted, twoVotes_signatures _, twoVotes_honest, by decide +kernel, by decide +kernel⟩

theorem honest_ancestries_accepted_iff_twoVotes :
    ¬ OneTarget (twoVotes [BytesN.ofNat 32 8]).commit ∧
      (verifyWithVoterSet childRuntime (twoVotes [BytesN.ofNat 32 8]) 0 bothKeys = .ok () ↔
        BaseIncluded childRuntime (twoVotes [BytesN.ofNat 32 8])) := by
  have hall := honest_ancestries_accepted_iff twoVotes_accepted
    (twoVotes_signatures [BytesN.ofNat 32 8])
  exact ⟨twoVotes_not_oneTarget _, (hall.2 (twoVotes_not_oneTarget _)).1⟩

def Acyclic (E : Runtime Header VoterSet) (headers : List Header) : Prop :=
  ∀ h, ¬ LeadsOn (parentOf E headers) h h

theorem ancestry_ne_running {headers : List Header} {block : H256} (hacyclic : Acyclic E headers) :
    ancestry E headers base block ≠ .running := by
  intro hrunning
  have hfuel : (headers.map E.hash).length < headers.length + 1 := by
    rw [List.length_map]
    omega
  obtain ⟨h, hcircle⟩ := exists_circle_of_walk_running (fun _ => parentOf_mem) hfuel hrunning
  exact hacyclic h hcircle

structure ExactRoute (E : Runtime Header VoterSet) (headers : List Header) (base block : H256)
    (route : List H256) : Prop where
  first : route.head? = some block
  last : route.getLast? = some base
  links : route.IsChain fun h parent => parentOf E headers h = some parent
  nodup : route.Nodup
  known : ∀ h ∈ route, h = base ∨ h ∈ headers.map E.hash

theorem exactRoute_of_arrived {headers : List Header} {block : H256} {route : List H256}
    (h : ancestry E headers base block = .arrived route) : ExactRoute E headers base block route := by
  obtain ⟨l, hroute, rfl⟩ := ancestry_eq_arrived.mp h
  refine ⟨hroute.head?_eq, List.getLast?_concat, hroute.isChain, ?_, fun x hx => ?_⟩
  · rw [← List.concat_eq_append, List.nodup_concat]
    exact ⟨hroute.goal_not_mem, hroute.nodup⟩
  · rcases List.mem_append.mp hx with hmem | hlast
    · exact .inr (hroute.mem_of_next (fun _ => parentOf_mem) hmem)
    · exact .inl (List.mem_singleton.mp hlast)

/-- Without circles the walk ends, after as many steps as there are headers at most. It arrives exactly if parent links
lead from the block to the base, and then the route is that way. The links looked up are those of the headers if no two
of them share a hash but not the parent. -/
theorem ancestry_terminates_exact {headers : List Header} (hacyclic : Acyclic E headers) (base block : H256) :
    ancestry E headers base block ≠ .running ∧
      (∀ steps, headers.length < steps → walk (parentOf E headers) base steps block = ancestry E headers base block) ∧
      ((∃ route, ancestry E headers base block = .arrived route) ↔ Leads (parentOf E headers) block base) ∧
      (∀ route, ancestry E headers base block = .arrived route → ExactRoute E headers base block route) ∧
      (HashBinds E headers → ((∃ route, ancestry E headers base block = .arrived route) ↔
          Relation.ReflTransGen (ParentLink E headers) block base) ∧
        ∀ route, ancestry E headers base block = .arrived route → route.IsChain (ParentLink E headers)) := by
  have hends : ancestry E headers base block ≠ .running := ancestry_ne_running hacyclic
  have harrives : (∃ route, ancestry E headers base block = .arrived route) ↔
    Leads (parentOf E headers) block base := by
    rw [← exists_route_iff]
    constructor
    · rintro ⟨route, harrived⟩
      obtain ⟨l, hroute, -⟩ := ancestry_eq_arrived.mp harrived
      exact ⟨l, hroute⟩
    · rintro ⟨l, hroute⟩
      exact ⟨l ++ [base], ancestry_eq_arrived.mpr ⟨l, hroute, rfl⟩⟩
  refine ⟨hends, fun steps hsteps => walk_mono hsteps hends, harrives, fun route => exactRoute_of_arrived, ?_⟩
  intro hbinds
  rw [parentLink_eq hbinds]
  exact ⟨harrives, fun route harrived => (exactRoute_of_arrived harrived).links⟩

theorem parentOf_child {h parent : H256} (hnext : parentOf childRuntime [BytesN.ofNat 32 8] h = some parent) :
    h = BytesN.ofNat 32 8 ∧ parent = BytesN.ofNat 32 7 := by
  have hmem : h ∈ [BytesN.ofNat 32 8].map childRuntime.hash := parentOf_mem (by simp [hnext])
  obtain rfl : h = BytesN.ofNat 32 8 := List.mem_singleton.mp hmem
  have hparent : parentOf childRuntime [BytesN.ofNat 32 8] (BytesN.ofNat 32 8) = some (BytesN.ofNat 32 7) := by
    decide +kernel
  rw [hparent] at hnext
  exact ⟨rfl, (Option.some.inj hnext).symm⟩

theorem child_acyclic : Acyclic childRuntime [BytesN.ofNat 32 8] := by
  intro h hcircle
  obtain ⟨parent, hnext, hback⟩ := Relation.TransGen.head'_iff.mp hcircle
  obtain ⟨rfl, rfl⟩ := parentOf_child hnext
  rcases hback.cases_head with heq | ⟨x, hnext', -⟩
  · exact absurd heq (by decide +kernel)
  · exact absurd (parentOf_child hnext').1 (by decide +kernel)

theorem ancestry_terminates_exact_child :
    ancestry childRuntime [BytesN.ofNat 32 8] (BytesN.ofNat 32 7) (BytesN.ofNat 32 8) =
        .arrived [BytesN.ofNat 32 8, BytesN.ofNat 32 7] ∧
      ExactRoute childRuntime [BytesN.ofNat 32 8] (BytesN.ofNat 32 7) (BytesN.ofNat 32 8)
        [BytesN.ofNat 32 8, BytesN.ofNat 32 7] := by
  have harrived : ancestry childRuntime [BytesN.ofNat 32 8] (BytesN.ofNat 32 7) (BytesN.ofNat 32 8) =
      .arrived [BytesN.ofNat 32 8, BytesN.ofNat 32 7] := by decide +kernel
  have hexact := ancestry_terminates_exact child_acyclic (BytesN.ofNat 32 7) (BytesN.ofNat 32 8)
  exact ⟨harrived, hexact.2.2.2.1 _ harrived⟩

end Hyperbridge.Grandpa
