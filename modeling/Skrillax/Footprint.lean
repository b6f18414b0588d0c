/-
**Actions with a footprint, and threads of them.**

On a store `K → V` most commands look at a few keys and change no others.  `HasFootprint f F` says
that the partial function `f` on stores depends on the keys of `F` only and changes the keys of `F`
only; commands with disjoint footprints commute, in the sense of `PartialAction.Refines`, and so the
commands of threads with pairwise disjoint footprints may be interleaved in any order.

Main definitions:

* `PartialAction.HasFootprint` — the frame and the locality of a partial function on stores;
* `PartialAction.Pool`, `PartialAction.Pool.Step` — threads of commands on a shared state, and their
  schedules;
* `PartialAction.Pool.Commuting`, `PartialAction.Pool.LeadsTo` — the commands of different threads
  commute, and running the threads one after the other leads to a state.

Main results:

* `PartialAction.HasFootprint.refines_swap` — **disjoint commands commute**;
* `PartialAction.HasFootprint.runAll` — a list of commands has the footprint of its members;
* `PartialAction.HasFootprint.isSome_flatMap` — disjoint blocks that are defined on their own are
  defined together;
* `PartialAction.Pool.LeadsTo.reached`, `PartialAction.Pool.LeadsTo.state_eq`,
  `PartialAction.Pool.LeadsTo.exists_finished` — **commuting threads**: in no schedule does a command
  fail, every schedule that ends has the result of running the threads one after the other, and every
  schedule can be brought to its end.
-/

import Skrillax.PartialAction

set_option relaxedAutoImplicit false
set_option autoImplicit false

namespace PartialAction

/-! ### Footprints -/

section Footprint

variable {K V : Type*}

/-- `f` depends on the keys of `F` only and changes the keys of `F` only. -/
structure HasFootprint (f : (K → V) → Option (K → V)) (F : Set K) : Prop where
  frame : ∀ {s t : K → V}, f s = some t → ∀ k ∉ F, t k = s k
  agree : ∀ {s s' t : K → V}, (∀ k ∈ F, s k = s' k) → f s = some t →
    ∃ t', f s' = some t' ∧ ∀ k ∈ F, t' k = t k

namespace HasFootprint

variable {C : Type*} {act : C → (K → V) → Option (K → V)}

theorem mono {f : (K → V) → Option (K → V)} {F G : Set K} (h : HasFootprint f F) (hFG : F ⊆ G) :
    HasFootprint f G where
  frame ht k hk := h.frame ht k fun hF => hk (hFG hF)
  agree {s s' t} hs ht := by
    obtain ⟨t', ht', hF⟩ := h.agree (fun k hk => hs k (hFG hk)) ht
    refine ⟨t', ht', fun k hk => ?_⟩
    by_cases hkF : k ∈ F
    · exact hF k hkF
    · rw [h.frame ht' k hkF, h.frame ht k hkF, hs k hk]

/-- A list of commands has the footprint of its members. -/
theorem runAll {F : Set K} {cs : List C} (h : ∀ c ∈ cs, HasFootprint (act c) F) :
    HasFootprint (PartialAction.runAll act cs) F := by
  induction cs with
  | nil =>
      refine ⟨fun ht k _ => ?_, fun {s s' t} hs ht => ⟨s', rfl, fun k hk => ?_⟩⟩
      · rw [← Option.some_inj.1 ht]
      · rw [← Option.some_inj.1 ht, hs k hk]
  | cons c cs ih =>
      have hc := h c List.mem_cons_self
      have ihcs := ih fun d hd => h d (List.mem_cons_of_mem _ hd)
      constructor
      · intro s t ht k hk
        obtain ⟨u, hu, hut⟩ := Option.bind_eq_some_iff.1 ht
        rw [ihcs.frame hut k hk, hc.frame hu k hk]
      · intro s s' t hs ht
        obtain ⟨u, hu, hut⟩ := Option.bind_eq_some_iff.1 ht
        obtain ⟨u', hu', huF⟩ := hc.agree hs hu
        obtain ⟨t', ht', htF⟩ := ihcs.agree (fun k hk => (huF k hk).symm) hut
        exact ⟨t', by rw [runAll_cons, hu']; exact ht', htF⟩

/-- Blocks of commands with disjoint footprints that are defined each on its own are defined one
after the other. -/
theorem isSome_flatMap {B : Type*} {block : B → List C} {F : B → Set K} {bs : List B}
    (hF : ∀ b ∈ bs, HasFootprint (PartialAction.runAll act (block b)) (F b))
    (hdisj : bs.Pairwise fun a b => Disjoint (F a) (F b)) :
    ∀ {s : K → V}, (∀ b ∈ bs, (PartialAction.runAll act (block b) s).isSome) →
      (PartialAction.runAll act (bs.flatMap block) s).isSome := by
  induction bs with
  | nil => exact fun _ => rfl
  | cons b bs ih =>
      intro s hdef
      obtain ⟨hb, hrest⟩ := List.pairwise_cons.1 hdisj
      obtain ⟨u, hu⟩ := Option.isSome_iff_exists.1 (hdef b List.mem_cons_self)
      rw [List.flatMap_cons, runAll_append, hu, Option.bind_some]
      refine ih (fun a ha => hF a (List.mem_cons_of_mem _ ha)) hrest fun a ha => ?_
      obtain ⟨t, ht⟩ := Option.isSome_iff_exists.1 (hdef a (List.mem_cons_of_mem _ ha))
      -- the first block has not touched the keys of the later one
      have hsame : ∀ k ∈ F a, s k = u k := fun k hk =>
        ((hF b List.mem_cons_self).frame hu k (Set.disjoint_right.1 (hb a ha) hk)).symm
      obtain ⟨t', ht', -⟩ := (hF a (List.mem_cons_of_mem _ ha)).agree hsame ht
      rw [ht']
      rfl

/-- **Disjoint commands commute.** -/
theorem refines_swap {c d : C} {F G : Set K} (hc : HasFootprint (act c) F)
    (hd : HasFootprint (act d) G) (hFG : Disjoint F G) : Refines act [c, d] [d, c] := by
  intro s t ht
  obtain ⟨u, hu, hut⟩ := Option.bind_eq_some_iff.1 ht
  obtain ⟨t₀, hdu, h⟩ := Option.bind_eq_some_iff.1 hut
  rw [runAll_nil, Option.some_inj] at h
  subst h
  have hnotF : ∀ k ∈ G, k ∉ F := fun k hG hF => Set.disjoint_left.1 hFG hF hG
  -- `d` sees the same keys before and after `c`, and `c` before and after `d`
  obtain ⟨v, hv, hvG⟩ := hd.agree (fun k hk => hc.frame hu k (hnotF k hk)) hdu
  have hsv : ∀ k ∈ F, s k = v k := fun k hk =>
    (hd.frame hv k (Set.disjoint_left.1 hFG hk)).symm
  obtain ⟨w, hw, hwF⟩ := hc.agree hsv hu
  have hwt : w = t₀ := by
    funext k
    by_cases hF : k ∈ F
    · rw [hwF k hF, hd.frame hdu k (Set.disjoint_left.1 hFG hF)]
    · rw [hc.frame hw k hF]
      by_cases hG : k ∈ G
      · exact hvG k hG
      · rw [hd.frame hv k hG, hd.frame hdu k hG, hc.frame hu k hF]
  rw [runAll_cons, hv, Option.bind_some, runAll_cons, hw, Option.bind_some, runAll_nil, hwt]

end HasFootprint

end Footprint

/-! ### Threads -/

/-- Threads that share a state.  A thread is the list of the commands that it has left to run, and
`failed` collects the commands that were undefined when their turn came. -/
structure Pool (C S : Type*) where
  state : S
  threads : List (List C)
  failed : List C

namespace Pool

variable {C S : Type*} {act : C → S → Option S}

/-- One thread runs its next command; a command that fails ends its thread and changes nothing. -/
inductive Step (act : C → S → Option S) : Pool C S → Pool C S → Prop
  | run (before after : List (List C)) {c : C} {cs failed : List C} {s s' : S} :
      act c s = some s' →
      Step act ⟨s, before ++ (c :: cs) :: after, failed⟩ ⟨s', before ++ cs :: after, failed⟩
  | fail (before after : List (List C)) {c : C} {cs failed : List C} {s : S} :
      act c s = none →
      Step act ⟨s, before ++ (c :: cs) :: after, failed⟩ ⟨s, before ++ [] :: after, failed ++ [c]⟩

/-- All the threads have come to their end. -/
def Finished (pool : Pool C S) : Prop := ∀ thread ∈ pool.threads, thread = []

/-- The commands of different threads commute. -/
def Commuting (act : C → S → Option S) (threads : List (List C)) : Prop :=
  threads.Pairwise fun t u => ∀ c ∈ t, ∀ d ∈ u,
    Refines act [c, d] [d, c] ∧ Refines act [d, c] [c, d]

/-- A thread may be replaced by one with fewer commands. -/
theorem Commuting.replace {before after : List (List C)} {t u : List C}
    (h : Commuting act (before ++ t :: after)) (hu : u ⊆ t) :
    Commuting act (before ++ u :: after) := by
  unfold Commuting at h ⊢
  rw [List.pairwise_append, List.pairwise_cons] at h ⊢
  obtain ⟨hbefore, ⟨hafter, hpost⟩, hcross⟩ := h
  refine ⟨hbefore, ⟨fun v hv c hc => hafter v hv c (hu hc), hpost⟩, ?_⟩
  intro v hv w hw c hc d hd
  rcases List.mem_cons.1 hw with rfl | hw
  · exact hcross v hv t List.mem_cons_self c hc d (hu hd)
  · exact hcross v hv w (List.mem_cons_of_mem _ hw) c hc d hd

/-- The next command of any thread may be run before everything else. -/
theorem Commuting.refines_next {before after : List (List C)} {c : C} {cs : List C}
    (h : Commuting act (before ++ (c :: cs) :: after)) :
    Refines act (before ++ (c :: cs) :: after).flatten (c :: (before ++ cs :: after).flatten) := by
  have hpass : Passes act c before.flatten := by
    refine passes_of_swaps fun d hd => ?_
    obtain ⟨t, ht, hdt⟩ := List.mem_flatten.1 hd
    have hcross := (List.pairwise_append.1 h).2.2
    exact (hcross t ht (c :: cs) List.mem_cons_self d hdt c List.mem_cons_self).symm
  have hmove := hpass.toFront.append_right (cs ++ after.flatten)
  simpa only [List.flatten_append, List.flatten_cons, List.append_assoc, List.cons_append,
    List.nil_append] using hmove

/-- What is left to run leads to `t` if it is run thread by thread, the threads commute, and nothing
has failed so far. -/
structure LeadsTo (act : C → S → Option S) (t : S) (pool : Pool C S) : Prop where
  noFailure : pool.failed = []
  commuting : Commuting act pool.threads
  result : runAll act pool.threads.flatten pool.state = some t

theorem LeadsTo.step {t : S} {pool pool' : Pool C S} (h : LeadsTo act t pool)
    (hstep : Step act pool pool') : LeadsTo act t pool' := by
  cases hstep with
  | @run before after c cs failed s s' hc =>
      have hnext := h.commuting.refines_next s t h.result
      rw [runAll_cons, hc] at hnext
      exact ⟨h.noFailure, h.commuting.replace (List.subset_cons_self c cs), hnext⟩
  | @fail before after c cs failed s hc =>
      have hnext := h.commuting.refines_next s t h.result
      rw [runAll_cons, hc] at hnext
      exact absurd hnext (by simp)

/-- **Commuting threads**: whatever the schedule, no command fails. -/
theorem LeadsTo.reached {t : S} {pool pool' : Pool C S} (h : LeadsTo act t pool)
    (hreach : Relation.ReflTransGen (Step act) pool pool') : LeadsTo act t pool' := by
  induction hreach with
  | refl => exact h
  | tail _ hstep ih => exact ih.step hstep

/-- **Commuting threads**: every schedule that comes to its end has the result of running the
threads one after the other. -/
theorem LeadsTo.state_eq {t : S} {pool : Pool C S} (h : LeadsTo act t pool)
    (hfin : pool.Finished) : pool.state = t := by
  have hresult := h.result
  rw [List.flatten_eq_nil_iff.2 hfin, runAll_nil] at hresult
  exact Option.some_inj.1 hresult

/-- A pool that leads somewhere gets there. -/
theorem LeadsTo.exists_finished {t : S} :
    ∀ {pool : Pool C S}, LeadsTo act t pool →
      ∃ pool', Relation.ReflTransGen (Step act) pool pool' ∧ pool'.Finished := by
  -- by induction on the number of commands left
  suffices hlen : ∀ n (pool : Pool C S), pool.threads.flatten.length = n → LeadsTo act t pool →
      ∃ pool', Relation.ReflTransGen (Step act) pool pool' ∧ pool'.Finished from
    fun {pool} h => hlen _ pool rfl h
  intro n
  induction n with
  | zero =>
      intro pool hn _
      exact ⟨pool, .refl, List.flatten_eq_nil_iff.1 (List.length_eq_zero_iff.1 hn)⟩
  | succ n ih =>
      intro pool hn h
      obtain ⟨s, threads, failed⟩ := pool
      have hne : ¬∀ thread ∈ threads, thread = [] := by
        intro hall
        rw [List.flatten_eq_nil_iff.2 hall] at hn
        simp at hn
      push Not at hne
      obtain ⟨thread, hmem, hthread⟩ := hne
      obtain ⟨c, cs, rfl⟩ := List.exists_cons_of_ne_nil hthread
      obtain ⟨before, after, rfl⟩ := List.append_of_mem hmem
      have hnext := h.commuting.refines_next s t h.result
      obtain ⟨s', hc, -⟩ := Option.bind_eq_some_iff.1 hnext
      have hstep : Step act ⟨s, before ++ (c :: cs) :: after, failed⟩
          ⟨s', before ++ cs :: after, failed⟩ := .run before after hc
      obtain ⟨pool', hreach, hfin⟩ := ih _ (by simp at hn ⊢; omega) (h.step hstep)
      exact ⟨pool', .head hstep hreach, hfin⟩

end Pool

end PartialAction
