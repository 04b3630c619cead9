import StellAIverse.CrossChainBridge.Completion

/-!
# Which signatures the bridge accepts

A verification that fails traps. The search for the one who signed therefore ends
at the first active validator who was not seen, and signatures are accepted in the
order of the list only, from its first active validator on.
-/

namespace CrossChainBridge

open Soroban

variable {τ : Type} {tok : MintToken τ} {host : Host} {self : Address} {s : State τ}
  {log : List (State τ × Action τ)} {message signature : Bytes} {signatures : List Bytes}
  {signers seen rest : List Address} {who : Address} {transfer : BridgeTransfer}

theorem isActive_of_get? {validator : Validator} (hfound : s.validator.get? who = some validator) :
    isActive s who = validator.isActive := by
  simp [isActive, hfound]

/-- Who is found signed, and is the first active validator who was not seen. -/
theorem findSigner_signed (hlength : signature.length = 64) {list : List Address}
    (h : findSigner host s message signature seen list = .ok who) :
    SignedBy host s message signature who ∧
      (list.filter (isActive s)).find? (fun x => !seen.contains x) = some who := by
  induction list with
  | nil => cases h
  | cons address list ih =>
    unfold findSigner at h
    split at h
    · rename_i hseen
      obtain ⟨hsigned, hfirst⟩ := ih h
      refine ⟨hsigned, ?_⟩
      cases hactive : isActive s address with
      | false => rw [List.filter_cons_of_neg (by simp [hactive]), hfirst]
      | true =>
        rw [List.filter_cons_of_pos hactive, List.find?_cons_of_neg (by simpa using hseen), hfirst]
    · rename_i hnew
      obtain ⟨validator, hfound, h⟩ := okOr_bind.mp h
      have hactive := isActive_of_get? hfound
      split at h
      · rename_i hinactive
        rw [List.filter_cons_of_neg (by simp [hactive, hinactive])]
        exact ih h
      · rename_i hon
        obtain ⟨hkey, h⟩ := failIf_bind.mp h
        obtain ⟨hverified, h⟩ := failIf_bind.mp h
        cases h
        refine ⟨⟨hlength, validator, hfound, by simpa using hkey, by simpa using hverified⟩, ?_⟩
        rw [List.filter_cons_of_pos (by simpa [hactive] using hon),
          List.find?_cons_of_pos (by simpa using hnew)]

/-- Who is found comes right after those seen before. -/
theorem findSigner_head (h : Listed s) (hactive : activeValidators s = seen ++ rest)
    (hfirst : (activeValidators s).find? (fun x => !seen.contains x) = some who) :
    ∃ later, rest = who :: later := by
  have hnodup : (seen ++ rest).Nodup := hactive ▸ h.nodup.filter _
  have hseen : seen.find? (fun x => !seen.contains x) = none :=
    List.find?_eq_none.mpr fun x hx => by simpa using hx
  rw [hactive, List.find?_append, hseen, Option.none_or] at hfirst
  cases rest with
  | nil => cases hfirst
  | cons next later =>
    have hnew : next ∉ seen := fun hmem =>
      List.disjoint_of_nodup_append hnodup hmem List.mem_cons_self
    rw [List.find?_cons_of_pos (by simpa using hnew)] at hfirst
    exact ⟨later, by rw [Option.some.inj hfirst]⟩

/-- Signatures that are all counted are of the next active validators, one after another. -/
theorem countSigners_signed (h : Listed s) {n : ℕ} (hactive : activeValidators s = seen ++ rest)
    (hcount : countSigners host s message signatures seen = .ok n) :
    ∃ signers, List.Forall₂ (SignedBy host s message) signatures signers ∧ signers <+: rest := by
  induction signatures generalizing seen rest with
  | nil => exact ⟨[], .nil, List.nil_prefix⟩
  | cons signature signatures ih =>
    unfold countSigners at hcount
    obtain ⟨hlength, hcount⟩ := failIf_bind.mp hcount
    obtain ⟨who, hfound, hcount⟩ := bind_ok.mp hcount
    obtain ⟨hsigned, hfirst⟩ := findSigner_signed (not_not.mp hlength) hfound
    obtain ⟨later, rfl⟩ := findSigner_head h hactive hfirst
    have hnext : activeValidators s = (seen ++ [who]) ++ later := by simp [hactive]
    obtain ⟨signers, hmore, hinit⟩ := ih hnext hcount
    exact ⟨who :: signers, .cons hsigned hmore, (List.prefix_cons_inj who).mpr hinit⟩

/-- The signatures of the first active validators in the order of the list, one of each. -/
def InOrder (host : Host) (s : State τ) (transfer : BridgeTransfer) (signatures : List Bytes) : Prop :=
  ∃ signers, List.Forall₂ (SignedBy host s (messageOf transfer)) signatures signers ∧
    signers <+: activeValidators s

/-- Each signature is of an active validator and no two are of the same one; there are at least
as many as required. -/
structure SignedByEnough (host : Host) (s : State τ) (transfer : BridgeTransfer)
    (signatures : List Bytes) : Prop where
  signed : ∀ signature ∈ signatures, ∃ who ∈ activeValidators s,
    SignedBy host s (messageOf transfer) signature who
  apart : signatures.Pairwise fun first second => ∀ who ∈ activeValidators s,
    SignedBy host s (messageOf transfer) first who → ¬ SignedBy host s (messageOf transfer) second who
  enough : ∃ config, s.signatureConfig = some config ∧
    config.requiredSignatures ≤ signatures.length

/-- No signature is valid under the keys of two active validators. -/
def Unambiguous (host : Host) (s : State τ) (message : Bytes) (signatures : List Bytes) : Prop :=
  ∀ signature ∈ signatures, ∀ first ∈ activeValidators s, ∀ second ∈ activeValidators s,
    SignedBy host s message signature first → SignedBy host s message signature second →
    first = second

/-- It does not matter in which order the signatures are given. -/
theorem SignedByEnough.perm {signatures' : List Bytes}
    (h : SignedByEnough host s transfer signatures) (hperm : signatures.Perm signatures') :
    SignedByEnough host s transfer signatures' where
  signed signature hmem := h.signed signature (hperm.mem_iff.mpr hmem)
  apart := (hperm.pairwise_iff fun hapart who hwho hsecond hfirst =>
    hapart who hwho hfirst hsecond).mp h.apart
  enough := by
    obtain ⟨config, hconfig, henough⟩ := h.enough
    exact ⟨config, hconfig, hperm.length_eq ▸ henough⟩

/-- No validator signed two of the signatures that different validators gave. -/
theorem apart_of_signed (hunique : Unambiguous host s message signatures)
    (hsigned : List.Forall₂ (SignedBy host s message) signatures signers) (hnodup : signers.Nodup)
    (hactive : ∀ who ∈ signers, who ∈ activeValidators s) :
    (∀ signature ∈ signatures, ∃ who ∈ signers, SignedBy host s message signature who) ∧
      signatures.Pairwise fun first second => ∀ who ∈ activeValidators s,
        SignedBy host s message first who → ¬ SignedBy host s message second who := by
  induction hsigned with
  | nil => exact ⟨fun signature hmem => (by cases hmem), .nil⟩
  | @cons signature who signatures signers hone hmore ih =>
    obtain ⟨hnew, hnodup⟩ := List.nodup_cons.mp hnodup
    have hlater : ∀ x ∈ signers, x ∈ activeValidators s := fun x hx =>
      hactive x (List.mem_cons_of_mem who hx)
    obtain ⟨hall, hapart⟩ :=
      ih (fun x hx => hunique x (List.mem_cons_of_mem _ hx)) hnodup hlater
    constructor
    · intro x hx
      rcases List.mem_cons.mp hx with rfl | hx
      · exact ⟨who, List.mem_cons_self, hone⟩
      · obtain ⟨y, hy, hsigned⟩ := hall x hx
        exact ⟨y, List.mem_cons_of_mem who hy, hsigned⟩
    · refine List.pairwise_cons.mpr ⟨fun x hx y hy hfirst hsecond => ?_, hapart⟩
      -- The second signature is of a later validator, and of no one else.
      obtain ⟨z, hz, hsigned⟩ := hall x hx
      obtain rfl := hunique signature List.mem_cons_self y hy who (hactive who List.mem_cons_self)
        hfirst hone
      obtain rfl := hunique x (List.mem_cons_of_mem _ hx) y hy z (hlater z hz) hsecond hsigned
      exact hnew hz

theorem InOrder.signedByEnough (h : Listed s)
    (hunique : Unambiguous host s (messageOf transfer) signatures)
    (horder : InOrder host s transfer signatures)
    (henough : ∃ config, s.signatureConfig = some config ∧
      config.requiredSignatures ≤ signatures.length) :
    SignedByEnough host s transfer signatures := by
  obtain ⟨signers, hsigned, hinit⟩ := horder
  have hactive : ∀ who ∈ signers, who ∈ activeValidators s := fun who hwho => hinit.mem hwho
  obtain ⟨hall, hapart⟩ := apart_of_signed hunique hsigned
    (hinit.sublist.nodup (h.nodup.filter _)) hactive
  refine ⟨fun signature hmem => ?_, hapart, henough⟩
  obtain ⟨who, hwho, hone⟩ := hall signature hmem
  exact ⟨who, hactive who hwho, hone⟩

/-- The signatures that are accepted. -/
theorem verifyTransferSignatures_ok (h : Listed s) :
    verifyTransferSignatures host transfer signatures s = .ok () ↔
      Quorum host s transfer signatures := by
  refine ⟨fun hverified => ?_, fun hquorum => hquorum.verifies h⟩
  unfold verifyTransferSignatures at hverified
  obtain ⟨config, hconfig, hverified⟩ := okOr_bind.mp hverified
  obtain ⟨henough, hverified⟩ := failIf_bind.mp hverified
  obtain ⟨n, hcount, -⟩ := bind_ok.mp hverified
  exact ⟨⟨config, hconfig, not_lt.mp henough⟩, countSigners_signed h rfl hcount⟩

/-- In every reachable state the signatures that are accepted for a transfer are exactly those
of enough different active validators, if and only if these, where they are that, come from the
first active validators in the order of the list. -/
theorem quorum_accepted {start : τ}
    (hrun : History (next tok host self) (fun _ _ _ => True) (deployed start) log s)
    (hunique : Unambiguous host s (messageOf transfer) signatures) :
    (verifyTransferSignatures host transfer signatures s = .ok () ↔
        SignedByEnough host s transfer signatures) ↔
      (SignedByEnough host s transfer signatures → InOrder host s transfer signatures) := by
  have hlisted := history_listed hrun
  rw [verifyTransferSignatures_ok hlisted]
  constructor
  · intro hiff henough
    exact (hiff.mpr henough).signed
  · intro horder
    refine ⟨fun hquorum => ?_, fun henough => ⟨henough.enough, horder henough⟩⟩
    exact InOrder.signedByEnough hlisted hunique hquorum.signed hquorum.enough

section Runs

open Sample

/-- Two validators have to sign; one between them has left. -/
def paired : List (ℕ × Op) := [
  (0, opened 100 1000 5000),
  (1, .addValidator alice (key 1) 1),
  (2, .addValidator admin (key 3) 1),
  (3, .addValidator bob (key 2) 1),
  (4, .removeValidator admin),
  (5, .addSupportedToken usdc "USDC" 7 true true []),
  (6, .initiateTransfer .ethereum [5] usdc 100 1 alice)]

/-- The signature under a key. -/
def signatureOf (n : UInt8) : Bytes := key n ++ key n

theorem signedBy_key {s : State Balances} {n : UInt8} {validator : Validator}
    (hfound : s.validator.get? who = some validator) (hkey : validator.publicKey = key n) :
    SignedBy verifier s message signature who ↔ signature = signatureOf n := by
  constructor
  · rintro ⟨-, validator', hfound', -, hverified⟩
    obtain rfl := Option.some.inj (hfound.symm.trans hfound')
    rw [hkey] at hverified
    exact of_decide_eq_true hverified
  · rintro rfl
    refine ⟨by simp [signatureOf, key], validator, hfound, by rw [hkey]; simp [key], ?_⟩
    rw [hkey]
    exact decide_eq_true rfl

/-- The two validators' signatures are enough, and in order if the first one's comes first. -/
theorem paired_signed :
    ∃ log s transfer, History (next issuedAsset verifier contract) (fun _ _ _ => True) start log s ∧
      s.transfer.get? 1 = some transfer ∧ activeValidators s = [alice, bob] ∧
      (∀ message signature, SignedBy verifier s message signature alice ↔ signature = signatureOf 1) ∧
      (∀ message signature, SignedBy verifier s message signature bob ↔ signature = signatureOf 2) ∧
      (∀ signatures, Unambiguous verifier s (messageOf transfer) signatures) ∧
      SignedByEnough verifier s transfer [signatureOf 1, signatureOf 2] := by
  have h : After (fun h => activeValidators h.2 = [alice, bob] ∧
        (∃ validator ∈ h.2.validator.get? alice, validator.publicKey = key 1) ∧
        (∃ validator ∈ h.2.validator.get? bob, validator.publicKey = key 2) ∧
        (∃ config ∈ h.2.signatureConfig, config.requiredSignatures = 2) ∧
        ∃ transfer ∈ h.2.transfer.get? 1, transfer.status = .locked)
      (record (next issuedAsset verifier contract) (fun _ _ _ => True) (calls paired) ([], start)) := by
    decide +kernel
  obtain ⟨⟨log, s⟩, hrec, hlist, ⟨first, hfirst, hkey⟩, ⟨second, hsecond, hkey'⟩,
    ⟨config, hconfig, hrequired⟩, transfer, htransfer, -⟩ := h.exists_ok
  have halice : ∀ message signature, SignedBy verifier s message signature alice ↔
      signature = signatureOf 1 := fun _ _ => signedBy_key hfirst hkey
  have hbob : ∀ message signature, SignedBy verifier s message signature bob ↔
      signature = signatureOf 2 := fun _ _ => signedBy_key hsecond hkey'
  have hne : signatureOf 1 ≠ signatureOf 2 := by decide
  refine ⟨log, s, transfer, record_history _ (fun _ _ _ _ _ => trivial) .nil hrec, htransfer, hlist,
    halice, hbob, ?_, ?_, ?_, config, hconfig, hrequired.le⟩
  · intro signatures signature _ x hx y hy hsigned hsigned'
    rw [hlist] at hx hy
    simp only [List.mem_cons, List.not_mem_nil, or_false] at hx hy
    rcases hx with rfl | rfl <;> rcases hy with rfl | rfl
    · rfl
    · exact absurd (((halice _ _).mp hsigned).symm.trans ((hbob _ _).mp hsigned')) hne
    · exact absurd (((halice _ _).mp hsigned').symm.trans ((hbob _ _).mp hsigned)) hne
    · rfl
  · intro signature hmem
    rw [hlist]
    simp only [List.mem_cons, List.not_mem_nil, or_false] at hmem
    rcases hmem with rfl | rfl
    · exact ⟨alice, by simp, (halice _ _).mpr rfl⟩
    · exact ⟨bob, by simp, (hbob _ _).mpr rfl⟩
  · rw [hlist]
    simp [halice, hbob, hne, hne.symm]

/-- In the order of the list the two signatures are accepted. -/
theorem quorum_accepted_paired :
    ∃ log s transfer, History (next issuedAsset verifier contract) (fun _ _ _ => True) start log s ∧
      SignedByEnough verifier s transfer [signatureOf 1, signatureOf 2] ∧
      verifyTransferSignatures verifier transfer [signatureOf 1, signatureOf 2] s = .ok () := by
  obtain ⟨log, s, transfer, hrun, -, hlist, halice, hbob, hunique, henough⟩ := paired_signed
  have horder : InOrder verifier s transfer [signatureOf 1, signatureOf 2] :=
    ⟨[alice, bob], .cons ((halice _ _).mpr rfl) (.cons ((hbob _ _).mpr rfl) .nil),
      hlist ▸ List.prefix_rfl⟩
  have hiff := (quorum_accepted hrun (hunique _)).mpr fun _ => horder
  exact ⟨log, s, transfer, hrun, henough, hiff.mpr henough⟩

/-- The same two signatures are refused the other way round. -/
theorem quorum_refused_reversed :
    ¬ ∀ (log : List (State Balances × Action Balances)) (s : State Balances)
        (transfer : BridgeTransfer) (signatures : List Bytes),
      History (next issuedAsset verifier contract) (fun _ _ _ => True) start log s →
      Unambiguous verifier s (messageOf transfer) signatures →
      (verifyTransferSignatures verifier transfer signatures s = .ok () ↔
        SignedByEnough verifier s transfer signatures) := by
  intro hall
  obtain ⟨log, s, transfer, hrun, -, hlist, halice, -, hunique, henough⟩ := paired_signed
  have hiff := hall log s transfer [signatureOf 2, signatureOf 1] hrun (hunique _)
  have hverified := hiff.mpr (henough.perm (List.Perm.swap _ _ _))
  obtain ⟨signers, hsigned, hinit⟩ :=
    ((verifyTransferSignatures_ok (history_listed hrun)).mp hverified).signed
  cases hsigned with
  | @cons _ who _ signers hone hmore =>
    rw [hlist] at hinit
    obtain ⟨rfl, -⟩ := List.cons_prefix_cons.mp hinit
    exact absurd ((halice _ _).mp hone) (by decide)

end Runs

end CrossChainBridge
