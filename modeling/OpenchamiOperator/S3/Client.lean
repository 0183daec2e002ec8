import Mathlib.Data.List.Sort
import OpenchamiOperator.Lib.Store
import OpenchamiOperator.Reconcilers.Helpers

/-! # Deleting a bucket from the object store

`DeleteBucket` of `internal/s3/s3client.go`: the objects are listed page by page and each page is
deleted in one request, then the bucket itself is deleted. The server refuses to delete an object
under retention and reports that only in the body of its answer, which the client does not read; it
refuses to delete a bucket that is not empty. The client library knows the type `NoSuchBucket` for the
answer to a listing but not for that to a deletion, so the deletion of a bucket that is not there
fails, although `DeleteBucket` looks for that type.

* `deleteBucket_triple`: when it returns without an error the bucket does not exist, and in every
  case the other buckets are as before. -/

namespace OpenchamiOperator.S3

open Lib Reconcilers

/-! ### The server -/

structure S3Object where
  key : String
  retained : Bool := false
deriving DecidableEq

structure Bucket where
  name : String
  objects : List S3Object := []
deriving DecidableEq

/-- The buckets, at most one of each name. -/
abbrev Buckets := Store Bucket.name

/-- The size of a page of `ListObjectsV2`. -/
def maxKeys : ℕ := 1000

/-- A page of a listing: its keys, and where the next page starts if there is one. -/
structure Page where
  contents : List String
  next : Option String

/-- The page of the keys after `token`. -/
def Bucket.page (b : Bucket) (token : Option String) : Page :=
  let keys := (b.objects.map S3Object.key).insertionSort (· ≤ ·)
  let rest := keys.filter fun k => token.all (· < k)
  ⟨rest.take maxKeys, if maxKeys < rest.length then (rest.take maxKeys).getLast? else none⟩

/-- `ListObjectsV2`, with no page when there is no such bucket. -/
def listObjects (bs : Buckets) (bucket : String) (token : Option String) : Option Page :=
  (bs.get? bucket).map fun b => b.page token

/-- `DeleteObjects`: the objects named go, except those under retention. -/
def deleteObjects (bs : Buckets) (bucket : String) (keys : List String) : Buckets :=
  match bs.get? bucket with
  | none => bs
  | some b => bs.apply ⟨bucket, b.objects.filter fun o => o.retained ∨ o.key ∉ keys⟩

/-- `DeleteBucket` of the server, with the error as the client library passes it on. -/
def removeBucket (bs : Buckets) (bucket : String) : Except ApiError Unit × Buckets :=
  match bs.get? bucket with
  | none => (.error .failed, bs)
  | some b => if b.objects = [] then (.ok (), bs.delete bucket) else (.error .failed, bs)

/-! ### The client -/

/-- The request for the objects of one page; an empty page is skipped. -/
def deletePage (bucket : String) (keys : List String) : Prog Buckets OpError Unit :=
  if keys = [] then pure ()
  else Prog.request ⟨"deleting objects in " ++ bucket, .failed⟩ fun bs =>
    (.ok (), deleteObjects bs bucket keys)

/-- The loop of `emptyBucket` from the page after `token` on, over at most `pages` pages. A bucket
that does not exist ends it without an error. -/
def emptyBucketFrom (bucket : String) : ℕ → Option String → Prog Buckets OpError Unit
  | 0, _ => Prog.fail ⟨"", .notFound⟩
  | pages + 1, token => do
    let listed ← Prog.request ⟨"listing objects in " ++ bucket, .failed⟩ fun bs =>
      (.ok (listObjects bs bucket token), bs)
    match listed with
    | none => pure ()
    | some page =>
      deletePage bucket page.contents
      match page.next with
      | none => pure ()
      | some t => emptyBucketFrom bucket pages (some t)

/-- The number of objects of a bucket with a key after `token`. -/
def remaining (bs : Buckets) (bucket : String) (token : Option String) : ℕ :=
  ((bs.get? bucket).elim [] Bucket.objects).countP fun o => token.all (· < o.key)

/-- `emptyBucket`. -/
def emptyBucket (bucket : String) : Prog Buckets OpError Unit :=
  ⟨fun n => (emptyBucketFrom bucket (remaining n.state bucket none + 1) none).run n⟩

/-- `DeleteBucket`. -/
def deleteBucket (bucket : String) : Prog Buckets OpError Unit := do
  emptyBucket bucket
  Prog.ignoring isNotFound (fun e => ⟨"deleting bucket " ++ bucket, e⟩)
    (Prog.request .failed fun bs => removeBucket bs bucket)

/-! ### Pages -/

/-- A page that is not the last ends with a key of the bucket after the token. -/
theorem page_next {b : Bucket} {token : Option String} {t : String}
    (h : (b.page token).next = some t) :
    (∃ o ∈ b.objects, o.key = t) ∧ token.all (· < t) = true := by
  unfold Bucket.page at h
  simp only at h
  split_ifs at h with hlen
  have hmem := List.mem_of_mem_take (List.mem_of_getLast? h)
  rw [List.mem_filter, List.mem_insertionSort, List.mem_map] at hmem
  exact hmem

theorem countP_lt_countP {α : Type} {p q : α → Bool} : ∀ {l : List α},
    (∀ x ∈ l, p x = true → q x = true) → (∃ x ∈ l, q x = true ∧ p x = false) →
      l.countP p < l.countP q
  | [], _, h => by simp at h
  | x :: l, himp, h => by
    have htail := fun y hy => himp y (List.mem_cons_of_mem x hy)
    have hle := List.countP_mono_left htail
    have hx := himp x (by simp)
    rw [List.countP_cons, List.countP_cons]
    obtain ⟨y, hy, hqy, hpy⟩ := h
    rcases List.mem_cons.mp hy with rfl | hy
    · rw [hqy, hpy]
      simp only [if_true, Bool.false_eq_true, if_false]
      omega
    · have hlt := countP_lt_countP htail ⟨y, hy, hqy, hpy⟩
      by_cases hpx : p x = true
      · rw [hpx, hx hpx]
        omega
      · rw [if_neg hpx]
        omega

theorem remaining_next {bs : Buckets} {bucket t : String} {b : Bucket} {token : Option String}
    (hb : bs.get? bucket = some b) (h : (b.page token).next = some t) :
    remaining bs bucket (some t) < remaining bs bucket token := by
  obtain ⟨⟨o, ho, rfl⟩, htoken⟩ := page_next h
  unfold remaining
  rw [hb]
  refine countP_lt_countP (fun x _ hx => ?_) ⟨o, ho, htoken, decide_eq_false (lt_irrefl _)⟩
  have hlt : o.key < x.key := by simpa using hx
  cases token with
  | none => rfl
  | some k =>
    have hk : k < o.key := by simpa using htoken
    simpa using hk.trans hlt

theorem get?_deleteObjects {bs : Buckets} {bucket : String} {keys : List String} :
    (deleteObjects bs bucket keys).get? bucket = (bs.get? bucket).map fun b =>
      ⟨bucket, b.objects.filter fun o => o.retained ∨ o.key ∉ keys⟩ := by
  unfold deleteObjects
  rcases hb : bs.get? bucket with _ | b
  · rw [hb]; rfl
  · exact Store.get?_eq_some_iff.mpr ⟨Store.mem_apply.mpr (Or.inl rfl), rfl⟩

theorem remaining_deleteObjects (bs : Buckets) (bucket : String) (keys : List String)
    (token : Option String) :
    remaining (deleteObjects bs bucket keys) bucket token ≤ remaining bs bucket token := by
  unfold remaining
  rw [get?_deleteObjects]
  rcases bs.get? bucket with _ | b
  · exact le_refl _
  · exact List.Sublist.countP_le List.filter_sublist

/-! ### What the calls change -/

/-- The buckets with another name are the same. -/
def Others (bucket : String) (bs₀ bs : Buckets) : Prop :=
  ∀ b : Bucket, b.name ≠ bucket → (b ∈ bs ↔ b ∈ bs₀)

theorem Others.get? {bucket name : String} {bs₀ bs : Buckets} (h : Others bucket bs₀ bs)
    (hne : name ≠ bucket) : bs.get? name = bs₀.get? name := by
  refine Option.ext fun b => ?_
  rw [Store.get?_eq_some_iff, Store.get?_eq_some_iff]
  constructor
  · exact fun hb => ⟨(h b (by rw [hb.2]; exact hne)).mp hb.1, hb.2⟩
  · exact fun hb => ⟨(h b (by rw [hb.2]; exact hne)).mpr hb.1, hb.2⟩

theorem Others.deleteObjects {bucket : String} {bs₀ bs : Buckets} (h : Others bucket bs₀ bs)
    (keys : List String) : Others bucket bs₀ (deleteObjects bs bucket keys) := by
  intro b hb
  rw [← h b hb]
  unfold S3.deleteObjects
  rcases bs.get? bucket with _ | c
  · rfl
  · rw [Store.mem_apply]
    constructor
    · rintro (rfl | ⟨hmem, -⟩)
      · exact absurd rfl hb
      · exact hmem
    · exact fun hmem => Or.inr ⟨hmem, hb⟩

theorem Others.removeBucket {bucket : String} {bs₀ bs : Buckets} (h : Others bucket bs₀ bs) :
    Others bucket bs₀ (removeBucket bs bucket).2 := by
  intro b hb
  rw [← h b hb]
  unfold S3.removeBucket
  rcases bs.get? bucket with _ | c
  · rfl
  · simp only
    split_ifs
    · rw [Store.mem_delete]
      exact ⟨fun hmem => hmem.1, fun hmem => ⟨hmem, hb⟩⟩
    · rfl

/-- When the server accepts, there is no such bucket afterwards; otherwise the error has no type. -/
theorem removeBucket_cases (bs : Buckets) (bucket : String) :
    ((removeBucket bs bucket).1 = .ok () ∧ (removeBucket bs bucket).2.has bucket = false) ∨
      (removeBucket bs bucket).1 = .error .failed := by
  unfold removeBucket
  rcases bs.get? bucket with _ | b
  · exact Or.inr rfl
  · simp only
    split_ifs
    · refine Or.inl ⟨rfl, Bool.eq_false_iff.mpr fun hhas => ?_⟩
      obtain ⟨a, ha, hk⟩ := Store.has_iff.mp hhas
      exact (Store.mem_delete.mp ha).2 hk
    · exact Or.inr rfl

theorem deletePage_triple {bucket : String} {I : Buckets → Prop} (keys : List String)
    (hI : ∀ bs, I bs → I (deleteObjects bs bucket keys)) :
    Prog.Triple I (deletePage bucket keys) (fun _ => I) fun e bs => I bs ∧ e.cause = .failed := by
  unfold deletePage
  split_ifs
  · exact Prog.Triple.pure fun _ h => h
  · refine Prog.Triple.request ?_ ?_ ?_ ?_
    · exact fun bs _ h _ => hI bs h
    · intro bs e _ he
      cases he
    · exact fun bs h => ⟨h, rfl⟩
    · exact fun bs h => ⟨hI bs h, rfl⟩

/-- The loop over the pages, by induction on their number. -/
theorem emptyBucketFrom_triple {bucket : String} {bs₀ : Buckets} :
    ∀ (pages : ℕ) (token : Option String), Prog.Triple
      (fun bs => Others bucket bs₀ bs ∧ remaining bs bucket token < pages)
      (emptyBucketFrom bucket pages token) (fun _ bs => Others bucket bs₀ bs)
      fun e bs => Others bucket bs₀ bs ∧ e.cause = .failed
  | 0, _ => fun n hn => absurd hn.2 (by omega)
  | pages + 1, token => by
    rw [emptyBucketFrom]
    refine Prog.Triple.bind (R := fun listed bs => Others bucket bs₀ bs ∧
      ∀ page t, listed = some page → page.next = some t →
        remaining bs bucket (some t) < pages) ?_ fun listed => ?_
    · refine Prog.Triple.request ?_ ?_ ?_ ?_
      · rintro bs listed ⟨h, hlt⟩ hlisted
        cases hlisted
        refine ⟨h, fun page t hpage hnext => ?_⟩
        obtain ⟨b, hb, rfl⟩ := Option.map_eq_some_iff.mp hpage
        have hless := remaining_next hb hnext
        exact hless.trans_le (Nat.lt_succ_iff.mp hlt)
      · intro bs e _ he
        cases he
      · exact fun bs h => ⟨h.1, rfl⟩
      · exact fun bs h => ⟨h.1, rfl⟩
    · cases listed with
      | none => exact Prog.Triple.pure fun _ h => h.1
      | some page =>
        refine Prog.Triple.bind (R := fun _ bs => Others bucket bs₀ bs ∧
          ∀ t, page.next = some t → remaining bs bucket (some t) < pages) ?_ fun _ => ?_
        · refine (deletePage_triple page.contents ?_).conseq
            (fun bs h => ⟨h.1, fun t => h.2 page t rfl⟩) (fun _ _ h => h) fun _ _ h => ⟨h.1.1, h.2⟩
          rintro bs ⟨h, hlt⟩
          refine ⟨h.deleteObjects _, fun t ht => ?_⟩
          exact (remaining_deleteObjects bs bucket _ _).trans_lt (hlt t ht)
        · split
          · exact Prog.Triple.pure fun _ h => h.1
          · rename_i t hnext
            exact (emptyBucketFrom_triple pages (some t)).conseq
              (fun bs h => ⟨h.1, h.2 t hnext⟩) (fun _ _ h => h) fun _ _ h => h

/-- **`DeleteBucket`**: after success the bucket does not exist; whatever happens, the other buckets
are as before. -/
theorem deleteBucket_triple (bucket : String) (bs₀ : Buckets) :
    Prog.Triple (fun bs => bs = bs₀) (deleteBucket bucket)
      (fun _ bs => Others bucket bs₀ bs ∧ bs.has bucket = false)
      fun e bs => Others bucket bs₀ bs ∧ e.cause = .failed := by
  unfold deleteBucket
  refine Prog.Triple.bind (R := fun _ bs => Others bucket bs₀ bs) ?_ fun _ => ?_
  · rintro n rfl
    exact emptyBucketFrom_triple _ none n ⟨fun _ _ => Iff.rfl, Nat.lt_succ_self _⟩
  · refine Prog.Triple.ignoring (E := fun e bs => Others bucket bs₀ bs ∧ e = .failed)
      (Prog.Triple.request ?_ ?_ ?_ ?_) ?_ ?_
    · intro bs _ h hok
      rcases removeBucket_cases bs bucket with ⟨-, hgone⟩ | hfailed
      · exact ⟨h.removeBucket, hgone⟩
      · rw [hfailed] at hok
        cases hok
    · intro bs e h he
      rcases removeBucket_cases bs bucket with ⟨hok, -⟩ | hfailed
      · rw [hok] at he
        cases he
      · exact ⟨h.removeBucket, Except.error.inj (he.symm.trans hfailed)⟩
    · exact fun bs h => ⟨h, rfl⟩
    · exact fun bs h => ⟨h.removeBucket, rfl⟩
    · rintro _ bs hnf ⟨-, rfl⟩
      cases hnf
    · rintro _ bs - ⟨h, rfl⟩
      exact ⟨h, rfl⟩

end OpenchamiOperator.S3
