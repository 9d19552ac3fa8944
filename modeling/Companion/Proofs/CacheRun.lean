import Companion.Proofs.Fingerprint
import Mathlib.Data.Finset.Card

/-!
# A cache never shows

A cache answers a request from what it remembers, and what it remembers was generated for whatever
had the same fingerprint at the time. This file is about caches that have answered any number of
requests, for any models, with options that change from one request to the next:

> **the answers are those of generation itself** (`answers_empty`),

and the counters say how many of the requests were repetitions.

The invariant, `Remembers`, ties the entries of a cache to the distinct requests that they were
generated for, in order. It needs no collision in the digest, and it only ever asks for none among
the texts that were digested in the run; that the texts of different requests differ is
`digested_inj`.
-/

namespace Companion

/-- No two of the messages have one digest. -/
def Sha256.CollisionFree (messages : List (List UInt8)) : Prop :=
  ∀ a ∈ messages, ∀ b ∈ messages, digest a = digest b → a = b

/-- Two messages are apart as soon as their digests are, however often each is digested. -/
theorem Sha256.collisionFree_of_ne {a b : List UInt8} (h : digest a ≠ digest b) :
    CollisionFree [a, b, a] := by
  intro x hx y hy hxy
  simp only [List.mem_cons, List.not_mem_nil, or_false] at hx hy
  rcases hx with rfl | rfl | rfl <;> rcases hy with rfl | rfl | rfl <;>
    first | rfl | exact absurd hxy h | exact absurd hxy.symm h

theorem Sha256.collisionFree_pair {a b : List UInt8} (h : digest a ≠ digest b) :
    CollisionFree [a, b] := by
  intro x hx y hy
  refine collisionFree_of_ne h x ?_ y ?_
  · simp only [List.mem_cons, List.not_mem_nil, or_false] at hx ⊢
    exact hx.imp_right .inl
  · simp only [List.mem_cons, List.not_mem_nil, or_false] at hy ⊢
    exact hy.imp_right .inl

/-- What a cache is asked: to generate for a model with options. -/
abbrev Request := SubjectModel × Options

namespace Request

def outcome (r : Request) : Outcome := r.1.generate r.2

def key (r : Request) : String := fingerprint r.1 r.2

def message (r : Request) : List UInt8 := digested r.1 r.2

/-- Among requests without a collision, a fingerprint belongs to one request. -/
theorem eq_of_key_eq {rs : List Request} (h : Sha256.CollisionFree (rs.map message)) {r s : Request}
    (hr : r ∈ rs) (hs : s ∈ rs) (hkey : r.key = s.key) : r = s := by
  have hmessage : r.message = s.message :=
    h _ (List.mem_map_of_mem hr) _ (List.mem_map_of_mem hs) (digest_eq_of_fingerprint_eq hkey)
  obtain ⟨hmodel, hoptions⟩ := digested_inj hmessage
  exact Prod.ext hmodel hoptions

end Request

theorem Sha256.CollisionFree.mono {as bs : List Request}
    (h : CollisionFree (bs.map Request.message)) (hsub : ∀ r ∈ as, r ∈ bs) :
    CollisionFree (as.map Request.message) := by
  intro a ha b hb
  obtain ⟨r, hr, rfl⟩ := List.mem_map.mp ha
  obtain ⟨s, hs, rfl⟩ := List.mem_map.mp hb
  exact h _ (List.mem_map_of_mem (hsub r hr)) _ (List.mem_map_of_mem (hsub s hs))

namespace Cache

/-- The answers to requests that are made one after another, and the cache after them. -/
def answers (c : Cache) : List Request → List Outcome × Cache
  | [] => ([], c)
  | r :: rest =>
    let (outcome, c) := c.getOrGenerate r.1 r.2
    let (outcomes, c) := c.answers rest
    (outcome :: outcomes, c)

theorem answers_cons (c : Cache) (r : Request) (rest : List Request) :
    c.answers (r :: rest)
      = ((c.getOrGenerate r.1 r.2).1 :: ((c.getOrGenerate r.1 r.2).2.answers rest).1,
        ((c.getOrGenerate r.1 r.2).2.answers rest).2) := rfl

/-! ## What a cache remembers -/

/-- The cache has generated for these requests, in this order, and for no others. -/
structure Remembers (c : Cache) (seen : List Request) : Prop where
  entries : c.entries = seen.map fun r => (r.key, r.outcome)
  nodup : seen.Nodup
  misses : c.misses = seen.length

theorem remembers_empty : Remembers {} [] := ⟨rfl, List.nodup_nil, rfl⟩

theorem Remembers.size_eq {c : Cache} {seen : List Request} (h : c.Remembers seen) :
    c.size = seen.length := by
  rw [size, h.entries, List.length_map]

/-- Where no two fingerprints agree by accident, what is found is the request's own outcome. -/
theorem lookup_key {seen : List Request} {r : Request} (h : ∀ s ∈ seen, r.key = s.key → r = s) :
    (seen.map fun s => (s.key, s.outcome)).lookup r.key
      = if r ∈ seen then some r.outcome else none := by
  induction seen with
  | nil => rfl
  | cons s rest ih =>
    rw [List.map_cons, List.lookup_cons]
    by_cases hkey : r.key = s.key
    · obtain rfl := h s List.mem_cons_self hkey
      simp
    · have hne : r ≠ s := fun he => hkey (by rw [he])
      rw [beq_false_of_ne hkey, ih fun t ht => h t (List.mem_cons_of_mem s ht)]
      simp [List.mem_cons, hne]

/-- One request, answered: the outcome is right, and the request is remembered afterwards — once. -/
theorem Remembers.getOrGenerate {c : Cache} {seen : List Request} (h : c.Remembers seen)
    {r : Request} (hfree : Sha256.CollisionFree ((r :: seen).map Request.message)) :
    (c.getOrGenerate r.1 r.2).1 = r.outcome
    ∧ (c.getOrGenerate r.1 r.2).2.Remembers (if r ∈ seen then seen else seen ++ [r])
    ∧ (c.getOrGenerate r.1 r.2).2.hits + (c.getOrGenerate r.1 r.2).2.misses
      = c.hits + c.misses + 1 := by
  have hlookup : c.entries.lookup (fingerprint r.1 r.2)
      = if r ∈ seen then some r.outcome else none := by
    rw [h.entries]
    exact lookup_key fun s hs =>
      Request.eq_of_key_eq hfree List.mem_cons_self (List.mem_cons_of_mem r hs)
  unfold Cache.getOrGenerate
  by_cases hr : r ∈ seen
  -- What is found leaves the entries alone; what is not is put at their end.
  · rw [if_pos hr] at hlookup ⊢
    simp only [hlookup]
    exact ⟨trivial, ⟨h.entries, h.nodup, h.misses⟩, by omega⟩
  · rw [if_neg hr] at hlookup ⊢
    simp only [hlookup]
    refine ⟨rfl, ⟨?_, ?_, ?_⟩, by omega⟩
    · rw [h.entries, List.map_append]
      rfl
    · refine List.nodup_append.mpr ⟨h.nodup, List.nodup_singleton r, ?_⟩
      rintro a ha b hb rfl
      exact hr (List.mem_singleton.mp hb ▸ ha)
    · rw [h.misses, List.length_append]
      rfl

/-! ## Whole runs -/

/-- **From any cache that is as remembered**: every answer is right, and the cache is as remembered
    again. By induction on the requests that are still to come, with those behind in `seen`. -/
theorem Remembers.answers {c : Cache} {seen : List Request} (h : c.Remembers seen)
    (requests : List Request)
    (hfree : Sha256.CollisionFree ((seen ++ requests).map Request.message)) :
    (c.answers requests).1 = requests.map Request.outcome
    ∧ (c.answers requests).2.hits + (c.answers requests).2.misses
      = c.hits + c.misses + requests.length
    ∧ ∃ seen', (c.answers requests).2.Remembers seen' ∧
        ∀ r, r ∈ seen' ↔ r ∈ seen ∨ r ∈ requests := by
  -- The collision-free list stays the same up to order and repetition while requests move over.
  induction requests generalizing c seen with
  | nil => exact ⟨rfl, rfl, seen, h, by simp⟩
  | cons r rest ih =>
    obtain ⟨hanswer, hnext, hcount⟩ := h.getOrGenerate (r := r) (hfree.mono (by
      intro s hs
      rcases List.mem_cons.mp hs with rfl | hs
      · exact List.mem_append_right _ List.mem_cons_self
      · exact List.mem_append_left _ hs))
    obtain ⟨hanswers, hcounts, seen', hseen', hmem⟩ := ih hnext (hfree.mono (by
      intro s hs
      split at hs <;> simp only [List.mem_append, List.mem_cons, List.not_mem_nil] at hs ⊢ <;>
        tauto))
    rw [answers_cons]
    refine ⟨?_, ?_, seen', hseen', fun s => ?_⟩
    · rw [hanswer, hanswers, List.map_cons]
    · rw [hcounts, hcount, List.length_cons]
      omega
    · rw [hmem s]
      split
      · next hr =>
        constructor
        · exact fun hs => hs.imp_right (List.mem_cons_of_mem r)
        · rintro (hs | hs)
          · exact .inl hs
          · rcases List.mem_cons.mp hs with rfl | hs
            · exact .inl hr
            · exact .inr hs
      · simp only [List.mem_append, List.mem_cons, List.not_mem_nil, or_false, or_assoc]

/-- **A new cache answers like generation**, whatever it is asked and however often. It misses once
    for each distinct request, and keeps one outcome for it. -/
theorem answers_empty (requests : List Request)
    (h : Sha256.CollisionFree (requests.map Request.message)) :
    (answers {} requests).1 = requests.map Request.outcome
    ∧ (answers {} requests).2.hits + (answers {} requests).2.misses = requests.length
    ∧ (answers {} requests).2.misses = (answers {} requests).2.size
    ∧ (answers {} requests).2.size = requests.toFinset.card := by
  obtain ⟨hanswers, hcounts, seen, hseen, hmem⟩ :=
    remembers_empty.answers requests (by simpa using h)
  have hset : seen.toFinset = requests.toFinset := by
    ext r
    simpa using hmem r
  refine ⟨hanswers, by simpa using hcounts, by rw [hseen.misses, hseen.size_eq], ?_⟩
  rw [hseen.size_eq, ← List.toFinset_card_of_nodup hseen.nodup, hset]

/-- One model asked for twice, and in between under another suffix. -/
def repeatedRequests : List Request :=
  let m : SubjectModel :=
    { subject :=
        { name := "User", namespaceName := none, reference := "User", kind := .classType
          modifiers := {}, genericParameters := [], location := none }
      properties := [], methods := [] }
  [(m, {}), (m, { proxySuffix := "Twin" }), (m, {})]

theorem answers_repeatedRequests :
    Sha256.CollisionFree (repeatedRequests.map Request.message)
    ∧ (answers {} repeatedRequests).1 = repeatedRequests.map Request.outcome
    ∧ (answers {} repeatedRequests).2.hits + (answers {} repeatedRequests).2.misses = 3
    ∧ (answers {} repeatedRequests).2.size = 2 := by
  have hfree : Sha256.CollisionFree (repeatedRequests.map Request.message) := by
    simp only [repeatedRequests, List.map_cons, List.map_nil, Request.message, digested,
      toUTF8_toList]
    refine Sha256.collisionFree_of_ne ?_
    decide +kernel
  obtain ⟨hanswers, hcounts, -, hsize⟩ := answers_empty repeatedRequests hfree
  exact ⟨hfree, hanswers, hcounts, hsize.trans (by decide +kernel)⟩

end Cache

end Companion
