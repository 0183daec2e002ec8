import Mathlib.Data.List.Dedup
import Mathlib.Data.List.Sort
import OpenchamiOperator.Lib.Strings
import OpenchamiOperator.Reconcilers.Helpers

/-! # Deleting a cluster's secrets from Vault

`DeleteClusterPaths` of `internal/vault/client_vault.go`, over a KV v2 store that answers list and
delete requests. The function calls itself once per directory it finds; its depth is bounded by the
longest path stored.

* `deleteClusterPaths_triple`: when it returns without an error no secret is left under the
  directory, and with or without one, nothing outside the directory has changed. The only errors are
  those of failed requests: the bound on the depth is never reached.
* `deleteClusterPaths_exact`: after any number of attempts, a call whose requests are all served has
  deleted the secrets under the prefix and no others. -/

namespace OpenchamiOperator.Vault

open Lib Strings Reconcilers

/-! ### The store -/

/-- A secret of a KV v2 engine: where the engine is mounted, and the path below it. Vault refuses a
path that names a directory. -/
structure Secret where
  mount : String
  path : String
  leaf : hasSuffix path "/" = false
deriving DecidableEq

/-- The secrets stored, in any number of engines. -/
structure Kv where
  secrets : List Secret
deriving DecidableEq

/-- The entry of the listing of the directory `sub` that a path gives rise to: its next segment, with
a slash when the path goes on. -/
def childKey (sub path : String) : Option String :=
  if hasPrefix path sub then
    match cut '/' (trimPrefix path sub) with
    | (before, some _) => some (before ++ "/")
    | (before, none) => some before
  else none

/-- The answer to `LIST mount/metadata/sub`: every entry once, in order. -/
def Kv.list (kv : Kv) (mount sub : String) : List String :=
  let keys := kv.secrets.filterMap fun s => if s.mount = mount then childKey sub s.path else none
  keys.dedup.insertionSort (· ≤ ·)

/-- `DeleteMetadata`: the secret goes with all its versions. -/
def Kv.deleteMetadata (kv : Kv) (mount path : String) : Kv :=
  ⟨kv.secrets.filter fun s => ¬ (s.mount = mount ∧ s.path = path)⟩

/-- The length of the longest path. -/
def Kv.depth (kv : Kv) : ℕ := (kv.secrets.map fun s => s.path.toList.length).foldr max 0

/-! ### The client -/

/-- `splitKVPath`. -/
def splitKVPath (path : String) : String × String :=
  match cut '/' path with
  | (mount, some sub) => (mount, sub)
  | (_, none) => (path, "")

/-- The body of `DeleteClusterPaths`, calling itself at most `fuel` levels deep. -/
def deleteClusterPathsTo : ℕ → String → Prog Kv OpError Unit
  | 0, _ => Prog.fail ⟨"", .notFound⟩
  | fuel + 1, pre => do
    let keys ← Prog.request ⟨"listing " ++ pre, .failed⟩ fun kv =>
      (.ok (kv.list (splitKVPath pre).1 (splitKVPath pre).2), kv)
    Prog.forEach keys fun key =>
      let full := trimSuffix pre "/" ++ "/" ++ trimSuffix key "/"
      if hasSuffix key "/" then deleteClusterPathsTo fuel (full ++ "/")
      else Prog.request ⟨"deleting " ++ full, .failed⟩ fun kv =>
        (.ok (), kv.deleteMetadata (splitKVPath pre).1
          (trimPrefix full ((splitKVPath pre).1 ++ "/")))

/-- `DeleteClusterPaths`. -/
def deleteClusterPaths (pre : String) : Prog Kv OpError Unit :=
  ⟨fun n => (deleteClusterPathsTo (n.state.depth + 1) pre).run n⟩

/-- `kv.Get`: there is a secret at the path. -/
def Kv.has (kv : Kv) (mount path : String) : Bool :=
  kv.secrets.any fun s => s.mount = mount ∧ s.path = path

/-- `kv.Put`; Vault refuses a path that names a directory. -/
def Kv.put (kv : Kv) (mount path : String) : Kv :=
  if kv.has mount path then kv
  else if h : hasSuffix path "/" = false then ⟨kv.secrets ++ [⟨mount, path, h⟩]⟩
  else kv

/-- `EnsureSecret` writes: it may overwrite, or nothing is there. -/
def Kv.ensures (kv : Kv) (path : String) (overwrite : Bool) : Bool :=
  overwrite || !kv.has (splitKVPath path).1 (splitKVPath path).2

/-- `EnsureSecret`. -/
def Kv.ensureSecret (kv : Kv) (path : String) (overwrite : Bool) : Kv :=
  if kv.ensures path overwrite then kv.put (splitKVPath path).1 (splitKVPath path).2 else kv

/-! ### Listings -/

theorem mem_list {kv : Kv} {mount sub key : String} : key ∈ kv.list mount sub ↔
    ∃ s ∈ kv.secrets, s.mount = mount ∧ childKey sub s.path = some key := by
  unfold Kv.list
  rw [List.mem_insertionSort, List.mem_dedup, List.mem_filterMap]
  constructor
  · rintro ⟨s, hs, h⟩
    split_ifs at h with hm
    exact ⟨s, hs, hm, h⟩
  · rintro ⟨s, hs, hm, h⟩
    exact ⟨s, hs, by rw [if_pos hm, h]⟩

/-- An entry is a secret of the directory itself, or a directory in it. -/
theorem childKey_cases {sub path key : String} (h : childKey sub path = some key) :
    (path = sub ++ key ∧ '/' ∉ key.toList) ∨
      ∃ b c, key = b ++ "/" ∧ path = sub ++ (b ++ ("/" ++ c)) := by
  unfold childKey at h
  split_ifs at h with hp
  obtain ⟨rest, rfl⟩ := hasPrefix_iff.mp hp
  rw [trimPrefix_append] at h
  rcases cut_cases '/' rest with hno | ⟨b, c, rfl, hb⟩
  · rw [cut_of_not_mem hno] at h
    cases h
    exact Or.inl ⟨rfl, hno⟩
  · rw [cut_append hb c] at h
    cases h
    exact Or.inr ⟨b, c, rfl, rfl⟩

theorem childKey_of_hasPrefix {sub path : String} (h : hasPrefix path sub = true) :
    ∃ key, childKey sub path = some key := by
  unfold childKey
  rw [if_pos h]
  rcases cut '/' (trimPrefix path sub) with ⟨before, _ | after⟩
  · exact ⟨before, rfl⟩
  · exact ⟨before ++ "/", rfl⟩

theorem splitKVPath_append {mount : String} (h : '/' ∉ mount.toList) (sub : String) :
    splitKVPath (mount ++ ("/" ++ sub)) = (mount, sub) := by
  unfold splitKVPath
  rw [show ("/" : String) = String.singleton '/' from rfl, cut_append h sub]

theorem length_le_depth {kv : Kv} {s : Secret} (h : s ∈ kv.secrets) :
    s.path.toList.length ≤ kv.depth := by
  have hmax : ∀ l : List ℕ, ∀ x ∈ l, x ≤ l.foldr max 0 := by
    intro l
    induction l with
    | nil => intro x hx; cases hx
    | cons y l ih =>
      intro x hx
      rw [List.foldr_cons]
      rcases List.mem_cons.mp hx with rfl | hx
      · exact le_max_left _ _
      · exact (ih x hx).trans (le_max_right _ _)
  exact hmax _ _ (List.mem_map_of_mem h)

/-! ### What a call changes -/

/-- The secret lies in the directory `sub` of the engine at `mount`. -/
def Secret.Under (s : Secret) (mount sub : String) : Prop :=
  s.mount = mount ∧ hasPrefix s.path sub = true

/-- Compared with `kv₀`, only secrets under `sub` are missing and nothing is new. -/
def Shrunk (mount sub : String) (kv₀ kv : Kv) : Prop :=
  (∀ s ∈ kv.secrets, s ∈ kv₀.secrets) ∧ ∀ s ∈ kv₀.secrets, ¬ s.Under mount sub → s ∈ kv.secrets

theorem Shrunk.refl (mount sub : String) (kv : Kv) : Shrunk mount sub kv kv :=
  ⟨fun _ h => h, fun _ h _ => h⟩

theorem mem_deleteMetadata {kv : Kv} {mount path : String} {s : Secret} :
    s ∈ (kv.deleteMetadata mount path).secrets ↔
      s ∈ kv.secrets ∧ ¬ (s.mount = mount ∧ s.path = path) := by
  unfold Kv.deleteMetadata
  rw [List.mem_filter, decide_eq_true_eq]

theorem Shrunk.deleteMetadata {mount sub path : String} {kv₀ kv : Kv}
    (h : Shrunk mount sub kv₀ kv) (hp : hasPrefix path sub = true) :
    Shrunk mount sub kv₀ (kv.deleteMetadata mount path) := by
  refine ⟨fun s hs => h.1 s (mem_deleteMetadata.mp hs).1, fun s hs hu => ?_⟩
  refine mem_deleteMetadata.mpr ⟨h.2 s hs hu, ?_⟩
  rintro ⟨hm, rfl⟩
  exact hu ⟨hm, hp⟩

/-- Every secret under `sub` is less than `fuel` characters longer than `sub`. -/
def Within (fuel : ℕ) (mount sub : String) (kv : Kv) : Prop :=
  ∀ s ∈ kv.secrets, s.Under mount sub → s.path.toList.length < sub.toList.length + fuel

/-! ### The recursion -/

/-- What is left under `sub` belongs to one of the entries `keys` of its listing. -/
def Pending (mount sub : String) (keys : List String) (kv : Kv) : Prop :=
  ∀ s ∈ kv.secrets, s.mount = mount → ∀ key, childKey sub s.path = some key → key ∈ keys

section Recursion
variable {mount sub : String} {keys : List String} {kv : Kv}

theorem pending_list : Pending mount sub (kv.list mount sub) kv :=
  fun s hs hm _ hkey => mem_list.mpr ⟨s, hs, hm, hkey⟩

theorem Pending.deleteMetadata (h : Pending mount sub keys kv) (m path : String) :
    Pending mount sub keys (kv.deleteMetadata m path) :=
  fun s hs => h s (mem_deleteMetadata.mp hs).1

/-- When no entry is pending the directory is empty. -/
theorem Pending.clear (h : Pending mount sub [] kv) : ∀ s ∈ kv.secrets, ¬ s.Under mount sub := by
  rintro s hs ⟨hm, hp⟩
  obtain ⟨key, hkey⟩ := childKey_of_hasPrefix hp
  exact absurd (h s hs hm key hkey) (by simp)

theorem Pending.leaf {key : String} (h : Pending mount sub (key :: keys) kv)
    (hkey : hasSuffix key "/" = false) :
    Pending mount sub keys (kv.deleteMetadata mount (sub ++ key)) := by
  intro s hs hm k hk
  obtain ⟨hs, hne⟩ := mem_deleteMetadata.mp hs
  rcases List.mem_cons.mp (h s hs hm k hk) with rfl | hmem
  · -- an entry without a slash is the secret itself, which is gone
    rcases childKey_cases hk with ⟨hpath, -⟩ | ⟨b, c, rfl, -⟩
    · exact absurd ⟨hm, hpath⟩ hne
    · rw [hasSuffix_append] at hkey
      cases hkey
  · exact hmem

theorem Pending.dir {b : String} (h : Pending mount sub ((b ++ "/") :: keys) kv)
    (hclear : ∀ s ∈ kv.secrets, ¬ s.Under mount (sub ++ (b ++ "/"))) :
    Pending mount sub keys kv := by
  intro s hs hm k hk
  rcases List.mem_cons.mp (h s hs hm k hk) with rfl | hmem
  · rcases childKey_cases hk with ⟨-, hno⟩ | ⟨b', c, hb, hpath⟩
    · exact absurd hno (by simp)
    · have hbb : b = b' := by
        have := congrArg (fun x => trimSuffix x "/") hb
        simpa using this
      subst hbb
      refine absurd ⟨hm, hasPrefix_iff.mpr ⟨c, ?_⟩⟩ (hclear s hs)
      rw [hpath]
      simp only [String.append_assoc]
  · exact hmem

/-- Going down one directory uses up at least one character of the bound. -/
theorem Within.dir {fuel : ℕ} (h : Within (fuel + 1) mount sub kv) (b : String) :
    Within fuel mount (sub ++ (b ++ "/")) kv := by
  rintro s hs ⟨hm, hp⟩
  obtain ⟨t, ht⟩ := hasPrefix_iff.mp hp
  have hlen := h s hs ⟨hm, hasPrefix_iff.mpr ⟨b ++ "/" ++ t, by rw [ht]; simp [String.append_assoc]⟩⟩
  simp only [String.toList_append, List.length_append] at hlen ⊢
  have : ("/" : String).toList.length = 1 := rfl
  omega

/-- A directory is listed only for a secret in it, which is at least two characters longer. -/
theorem Within.pos {fuel : ℕ} {b : String} (h : Within (fuel + 1) mount sub kv)
    (hb : b ++ "/" ∈ kv.list mount sub) : 0 < fuel := by
  obtain ⟨s, hs, hm, hkey⟩ := mem_list.mp hb
  rcases childKey_cases hkey with ⟨-, hno⟩ | ⟨b', c, -, hpath⟩
  · exact absurd hno (by simp)
  · have hlen := h s hs ⟨hm, hasPrefix_iff.mpr ⟨_, hpath⟩⟩
    have hc : c.toList.length ≠ 0 := by
      intro h0
      have hnil : c = "" := String.toList_inj.mp (List.length_eq_zero_iff.mp h0)
      have hleaf := s.leaf
      rw [hpath, hnil, String.append_empty, ← String.append_assoc, hasSuffix_append] at hleaf
      cases hleaf
    rw [hpath] at hlen
    simp only [String.toList_append, List.length_append] at hlen
    have : ("/" : String).toList.length = 1 := rfl
    omega

end Recursion

/-- **One call, by induction on the depth.** `R` is any property that deleting secrets of the
directory keeps and that bounds the depth. -/
theorem deleteClusterPathsTo_triple {mount : String} (hmount : '/' ∉ mount.toList) :
    ∀ (fuel : ℕ) (d : String) (R : Kv → Prop), 0 < fuel →
      (∀ kv path, R kv → hasPrefix path (d ++ "/") = true → R (kv.deleteMetadata mount path)) →
      (∀ kv, R kv → Within fuel mount (d ++ "/") kv) →
      Prog.Triple R (deleteClusterPathsTo fuel (mount ++ ("/" ++ (d ++ "/"))))
        (fun _ kv => R kv ∧ ∀ s ∈ kv.secrets, ¬ s.Under mount (d ++ "/"))
        fun e kv => R kv ∧ e.cause = .failed
  | 0, _, _, h0, _, _ => absurd h0 (by omega)
  | fuel + 1, d, R, _, hdel, hwithin => by
    have hpre : trimSuffix (mount ++ ("/" ++ (d ++ "/"))) "/" ++ "/" =
        mount ++ ("/" ++ (d ++ "/")) := by
      rw [show mount ++ ("/" ++ (d ++ "/")) = (mount ++ ("/" ++ d)) ++ "/" by
        simp only [String.append_assoc], trimSuffix_append]
    rw [deleteClusterPathsTo]
    refine Prog.Triple.bind (R := fun keys kv => (∀ b, b ++ "/" ∈ keys → 0 < fuel) ∧
      (R kv ∧ Pending mount (d ++ "/") keys kv)) ?_ fun keys => ?_
    · -- the listing changes nothing
      refine Prog.Triple.request ?_ ?_ ?_ ?_
      · intro kv keys hR hkeys
        rw [splitKVPath_append hmount] at hkeys
        cases hkeys
        exact ⟨fun b hb => (hwithin kv hR).pos hb, hR, pending_list⟩
      · intro kv e _ he
        cases he
      · exact fun kv hR => ⟨hR, rfl⟩
      · exact fun kv hR => ⟨hR, rfl⟩
    · refine Prog.Triple.assume fun hpos => ?_
      refine (Prog.Triple.forEach (I := fun keys kv => R kv ∧ Pending mount (d ++ "/") keys kv)
        ?_).conseq (fun _ h => h) (fun _ kv h => ⟨h.1, h.2.clear⟩) fun _ _ h => h
      intro key rest hsuffix
      simp only [hpre, splitKVPath_append hmount]
      split_ifs with hslash
      · -- a directory: the recursive call clears it and keeps the other entries pending
        obtain ⟨b, rfl⟩ := hasSuffix_iff.mp hslash
        rw [trimSuffix_append, show mount ++ ("/" ++ (d ++ "/")) ++ b ++ "/" =
          mount ++ ("/" ++ ((d ++ "/" ++ b) ++ "/")) by simp only [String.append_assoc]]
        have hsub : d ++ "/" ++ b ++ "/" = d ++ "/" ++ (b ++ "/") := String.append_assoc
        refine (deleteClusterPathsTo_triple hmount fuel (d ++ "/" ++ b)
          (fun kv => R kv ∧ Pending mount (d ++ "/") ((b ++ "/") :: rest) kv)
          (hpos b (hsuffix.subset (by simp))) ?_ ?_).conseq (fun _ h => h) ?_ ?_
        · rintro kv path ⟨hR, hp⟩ hpath
          obtain ⟨t, rfl⟩ := hasPrefix_iff.mp hpath
          refine ⟨hdel kv _ hR (hasPrefix_iff.mpr ⟨b ++ "/" ++ t, ?_⟩), hp.deleteMetadata _ _⟩
          simp only [String.append_assoc]
        · rintro kv ⟨hR, -⟩
          rw [hsub]
          exact (hwithin kv hR).dir b
        · rintro _ kv ⟨⟨hR, hp⟩, hclear⟩
          rw [hsub] at hclear
          exact ⟨hR, hp.dir hclear⟩
        · exact fun e kv h => ⟨h.1.1, h.2⟩
      · have hkey : hasSuffix key "/" = false := by simpa using hslash
        have hpath : trimPrefix (mount ++ ("/" ++ (d ++ "/")) ++ trimSuffix key "/") (mount ++ "/") =
            d ++ "/" ++ key := by
          rw [trimSuffix_of_not hkey, show mount ++ ("/" ++ (d ++ "/")) ++ key =
            (mount ++ "/") ++ (d ++ "/" ++ key) by simp only [String.append_assoc],
            trimPrefix_append]
        rw [hpath]
        have hstep : ∀ kv, R kv → R (kv.deleteMetadata mount (d ++ "/" ++ key)) :=
          fun kv hR => hdel kv _ hR (hasPrefix_append _ _)
        refine Prog.Triple.request ?_ ?_ ?_ ?_
        · exact fun kv _ h _ => ⟨hstep kv h.1, h.2.leaf hkey⟩
        · intro kv e _ he
          cases he
        · exact fun kv h => ⟨h.1, rfl⟩
        · exact fun kv h => ⟨hstep kv h.1, rfl⟩

/-- **`DeleteClusterPaths` on the directory `d` of an engine**: after success the directory is empty;
whatever happens, only secrets of the directory are gone, and an error is that of a failed request. -/
theorem deleteClusterPaths_triple {mount : String} (hmount : '/' ∉ mount.toList) (d : String)
    (kv₀ : Kv) : Prog.Triple (fun kv => kv = kv₀)
      (deleteClusterPaths (mount ++ ("/" ++ (d ++ "/"))))
      (fun _ kv => Shrunk mount (d ++ "/") kv₀ kv ∧ ∀ s ∈ kv.secrets, ¬ s.Under mount (d ++ "/"))
      fun e kv => Shrunk mount (d ++ "/") kv₀ kv ∧ e.cause = .failed := by
  have hwithin : ∀ kv, Shrunk mount (d ++ "/") kv₀ kv →
      Within (kv₀.depth + 1) mount (d ++ "/") kv := by
    intro kv h s hs _
    have := length_le_depth (h.1 s hs)
    omega
  have h := deleteClusterPathsTo_triple hmount (kv₀.depth + 1) d (Shrunk mount (d ++ "/") kv₀)
    (Nat.succ_pos _) (fun kv path hs hp => hs.deleteMetadata hp) hwithin
  rintro n rfl
  exact h n (Shrunk.refl _ _ _)

/-! ### Repeated calls -/

/-- The only faults are failed requests: the bound on the depth ends with another error. -/
theorem deleteClusterPathsTo_honest : ∀ (fuel : ℕ) (pre : String),
    Prog.Honest (fun e => e.cause = .failed) (deleteClusterPathsTo fuel pre)
  | 0, _ => Prog.Honest.fail (by simp)
  | fuel + 1, pre => by
    rw [deleteClusterPathsTo]
    refine Prog.Honest.bind (Prog.Honest.request fun kv e he => by cases he) fun keys => ?_
    refine Prog.Honest.forEach fun key _ => ?_
    dsimp only
    split
    · exact deleteClusterPathsTo_honest fuel _
    · exact Prog.Honest.request fun kv e he => by cases he

theorem deleteClusterPaths_honest (pre : String) :
    Prog.Honest (fun e => e.cause = .failed) (deleteClusterPaths pre) :=
  fun n => deleteClusterPathsTo_honest (n.state.depth + 1) pre n

theorem Shrunk.trans {mount sub : String} {kv₀ kv₁ kv₂ : Kv} (h : Shrunk mount sub kv₀ kv₁)
    (h' : Shrunk mount sub kv₁ kv₂) : Shrunk mount sub kv₀ kv₂ :=
  ⟨fun s hs => h.1 s (h'.1 s hs), fun s hs hu => h'.2 s (h.2 s hs hu) hu⟩

/-- A directory is cleared by deleting all that was under it. -/
theorem Shrunk.mem_iff {mount sub : String} {kv₀ kv : Kv} (h : Shrunk mount sub kv₀ kv)
    (hclear : ∀ s ∈ kv.secrets, ¬ s.Under mount sub) (s : Secret) :
    s ∈ kv.secrets ↔ s ∈ kv₀.secrets ∧ ¬ s.Under mount sub :=
  ⟨fun hs => ⟨h.1 s hs, hclear s hs⟩, fun ⟨hs, hu⟩ => h.2 s hs hu⟩

/-- The prefix of a cluster. -/
def clusterPrefix (c : String) : String := "openchami/" ++ c ++ "/"

theorem clusterPrefix_eq (c : String) :
    clusterPrefix c = "openchami" ++ ("/" ++ (c ++ "/")) := by
  rw [clusterPrefix, show ("openchami/" : String) = "openchami" ++ "/" from rfl]
  simp only [String.append_assoc]

/-- The store after attempts at deleting the secrets of a cluster, each with the fates of its
requests. -/
def afterAttempts (c : String) (kv : Kv) (attempts : List (List Fate)) : Kv :=
  attempts.foldl (fun kv fates => ((deleteClusterPaths (clusterPrefix c)).run ⟨kv, fates⟩).2.state) kv

theorem deleteClusterPaths_run (c : String) (kv : Kv) (fates : List Fate) :
    (∀ a m, (deleteClusterPaths (clusterPrefix c)).run ⟨kv, fates⟩ = (.ok a, m) →
      Shrunk "openchami" (c ++ "/") kv m.state ∧
        ∀ s ∈ m.state.secrets, ¬ s.Under "openchami" (c ++ "/")) ∧
    ∀ e m, (deleteClusterPaths (clusterPrefix c)).run ⟨kv, fates⟩ = (.error e, m) →
      Shrunk "openchami" (c ++ "/") kv m.state ∧ e.cause = .failed := by
  rw [clusterPrefix_eq]
  exact deleteClusterPaths_triple (by decide) c kv ⟨kv, fates⟩ rfl

theorem afterAttempts_shrunk (c : String) (kv : Kv) (attempts : List (List Fate)) :
    Shrunk "openchami" (c ++ "/") kv (afterAttempts c kv attempts) := by
  unfold afterAttempts
  induction attempts generalizing kv with
  | nil => exact Shrunk.refl _ _ kv
  | cons fates attempts ih =>
    obtain ⟨hok, herr⟩ := deleteClusterPaths_run c kv fates
    refine Shrunk.trans ?_ (ih _)
    show Shrunk _ _ kv ((deleteClusterPaths (clusterPrefix c)).run ⟨kv, fates⟩).2.state
    rcases hrun : (deleteClusterPaths (clusterPrefix c)).run ⟨kv, fates⟩ with ⟨e | a, m⟩
    · exact (herr e m hrun).1
    · exact (hok a m hrun).1

/-- **Deleting the secrets of a cluster.** A call whose requests are all served returns nil. If a call
returns nil, after whatever attempts before it, exactly the secrets under the prefix are gone; if not,
a request has failed and only such secrets are gone. -/
theorem deleteClusterPaths_exact (c : String) (kv : Kv) (attempts : List (List Fate))
    (fates : List Fate) :
    let r := (deleteClusterPaths (clusterPrefix c)).run ⟨afterAttempts c kv attempts, fates⟩
    ((∀ f ∈ fates, f = .served) → r.1 = .ok ()) ∧
    (r.1 = .ok () → (∃ sent, fates = sent ++ r.2.fates ∧ ∀ f ∈ sent, f = .served) ∧
      ∀ s, s ∈ r.2.state.secrets ↔ s ∈ kv.secrets ∧ ¬ s.Under "openchami" (c ++ "/")) ∧
    ∀ e, r.1 = .error e → (∃ sent f, fates = sent ++ f :: r.2.fates ∧ f ≠ .served) ∧
      (∀ s ∈ r.2.state.secrets, s ∈ kv.secrets) ∧
      ∀ s ∈ kv.secrets, s ∉ r.2.state.secrets → s.Under "openchami" (c ++ "/") := by
  intro r
  have hbefore := afterAttempts_shrunk c kv attempts
  obtain ⟨hok, herr⟩ := deleteClusterPaths_run c (afterAttempts c kv attempts) fates
  have hhonest := deleteClusterPaths_honest (clusterPrefix c)
  obtain ⟨hsent, hfault⟩ := hhonest ⟨afterAttempts c kv attempts, fates⟩
  refine ⟨fun hserved => ?_, fun hr => ?_, fun e hr => ?_⟩
  · rcases hrun : r with ⟨e | a, m⟩
    · exact absurd (herr e m hrun).2 (hhonest.not_fault hserved hrun)
    · rfl
  · have hrun : r = (.ok (), r.2) := Prod.ext hr rfl
    obtain ⟨hshrunk, hclear⟩ := hok () r.2 hrun
    exact ⟨hsent () r.2 hrun, fun s => (hbefore.trans hshrunk).mem_iff hclear s⟩
  · have hrun : r = (.error e, r.2) := Prod.ext hr rfl
    obtain ⟨hshrunk, hcause⟩ := herr e r.2 hrun
    have hall := hbefore.trans hshrunk
    exact ⟨hfault e r.2 hrun hcause, hall.1, fun s hs hgone =>
      Classical.byContradiction fun hu => hgone (hall.2 s hs hu)⟩

/-- Two clusters of which one name extends the other, with a key that is a secret and a directory. -/
def twoClusters : Kv where
  secrets :=
    [⟨"openchami", "alpha/db", by decide⟩, ⟨"openchami", "alpha/db/credentials", by decide⟩,
     ⟨"openchami", "alpha2/db", by decide⟩, ⟨"shared", "alpha/db", by decide⟩]

/-- The first attempt fails after one of the deletions, the second completes. -/
theorem deleteClusterPaths_exact_retry :
    (afterAttempts "alpha" twoClusters [[.served, .late]]).secrets.length = 3 ∧
    ((deleteClusterPaths (clusterPrefix "alpha")).run
      ⟨afterAttempts "alpha" twoClusters [[.served, .late]], []⟩).1 = .ok () ∧
    ⟨"openchami", "alpha2/db", by decide⟩ ∈ ((deleteClusterPaths (clusterPrefix "alpha")).run
      ⟨afterAttempts "alpha" twoClusters [[.served, .late]], []⟩).2.state.secrets := by
  obtain ⟨hserved, hok, -⟩ :=
    deleteClusterPaths_exact "alpha" twoClusters [[.served, .late]] []
  have hr := hserved (by simp)
  refine ⟨by decide +kernel, hr, ((hok hr).2 _).mpr ⟨by decide, ?_⟩⟩
  rintro ⟨-, hp⟩
  exact absurd hp (by decide)

end OpenchamiOperator.Vault
