import Stencil.Proofs.Markup.Nesting

/-!
What splicing touches.

The splicer offers the regions that lie in none of those that it replaces, in the order of the text, and the text that
it writes is the old one but for the bodies of those that it replaces (`replaceRegions_faithful`).
-/

namespace Stencil.Markup

/-- The regions among several that lie in none of some places. -/
def outside (places rs : List Region) : List Region :=
  rs.filter fun r => !places.any fun outer => decide (outer.Encloses r)

section Outside

variable {places rs : List Region} {r : Region}

theorem outside_cons_free (free : ∀ outer ∈ places, ¬ outer.Encloses r) :
    outside places (r :: rs) = r :: outside places rs :=
  List.filter_cons_of_pos (by simpa using free)

theorem outside_cons_place (place : Region) :
    outside (place :: places) rs = outside places (rs.filter fun x => !decide (place.Encloses x)) := by
  rw [outside, outside, List.filter_filter]
  simp only [List.any_cons, Bool.not_or, Bool.and_comm]

end Outside

section Offered

variable {source : List Char} (replace : Region → String → Option String) {start stop : Nat}

/-- From its cursor on, the splicer offers the regions in none of the places, with their bodies. -/
theorem spliceFrom_offered {rs : List Region} (nest : Nest start stop rs) (cursor : Nat) :
    (spliceFrom source replace cursor rs).offered =
      (outside (outermost (isReplaced source replace) (regionsFrom cursor rs)) (regionsFrom cursor rs)).map
        fun r => (r, r.body source) := by
  fun_induction spliceFrom source replace cursor rs with
  | case1 => rfl
  | case2 cursor r rs passed ih =>
    rw [regionsFrom_passed passed]
    exact ih nest.tail
  | case3 cursor r rs reached _ made _ ih =>
    have free := (nest.reached cursor).head_free
    rw [outermost_left reached made, regionsFrom_reached reached, outside_cons_free, List.map_cons,
      ← ih nest.tail]
    exact fun outer member => free outer (List.mem_cons_of_mem _ (mem_outermost.mp member).1)
  | case4 cursor r rs reached _ new made _ ih =>
    have places := outermost_taken nest reached made
    -- No place lies around the region, and the regions in its body are out of reach.
    have free : ∀ outer ∈ r :: outermost (isReplaced source replace) (regionsFrom r.span.bodyEnd rs),
        ¬ outer.Encloses r := by
      intro outer member
      rw [← places, regionsFrom_reached reached] at member
      exact (nest.reached cursor).head_free outer (mem_outermost.mp member).1
    rw [places, regionsFrom_reached reached, outside_cons_free free, outside_cons_place,
      regionsFrom_bodyEnd nest reached, List.map_cons, ← ih nest.tail]

/-- Of what the splicer offers, the places are what it gets a new body for. -/
theorem spliceFrom_places {rs : List Region} (nest : Nest start stop rs) (cursor : Nat) :
    (((spliceFrom source replace cursor rs).offered.filter fun p => (replace p.1 p.2).isSome).map Prod.fst) =
      outermost (isReplaced source replace) (regionsFrom cursor rs) := by
  fun_induction spliceFrom source replace cursor rs with
  | case1 => rfl
  | case2 cursor r rs passed ih =>
    rw [regionsFrom_passed passed]
    exact ih nest.tail
  | case3 cursor r rs reached _ made _ ih =>
    rw [outermost_left reached made, List.filter_cons_of_neg (by rw [made]; exact Bool.false_ne_true)]
    exact ih nest.tail
  | case4 cursor r rs reached _ new made _ ih =>
    rw [outermost_taken nest reached made, List.filter_cons_of_pos (by rw [made]; rfl), List.map_cons,
      ih nest.tail]

end Offered

section Rewritten

variable {source : List Char} {start stop : Nat} {rs : List Region}

/-- Of two outermost regions, the later one is behind the earlier one. -/
theorem outermost_apart {chosen : Region → Bool} (nest : Nest start stop rs) :
    (outermost chosen rs).Pairwise fun r x => r.span.stop ≤ x.span.start := by
  refine (nest.ordered.sublist List.filter_sublist).imp_of_mem fun {r x} first second leads => ?_
  obtain ⟨member, taken, _⟩ := mem_outermost.mp first
  exact leads.resolve_left ((mem_outermost.mp second).2.2 r member taken)

theorem slice_append_drop {s : List Char} {start stop : Nat} (forward : start ≤ stop) :
    slice s start stop ++ s.drop stop = s.drop start := by
  have same : s.drop stop = (s.drop start).drop (stop - start) := by
    rw [List.drop_drop, Nat.add_sub_cancel' forward]
  rw [slice, same, List.take_append_drop]

theorem rewritten_congr {new new' : Region → List Char} (same : ∀ r ∈ rs, new r = new' r) (cursor : Nat) :
    rewritten source new cursor rs = rewritten source new' cursor rs := by
  induction rs generalizing cursor with
  | nil => rfl
  | cons r rs ih =>
    obtain ⟨first, others⟩ := List.forall_mem_cons.mp same
    rw [rewritten, rewritten, first, ih others]

/-- Regions that get the bodies they have leave the text as it is. -/
theorem rewritten_own (fits : ∀ r ∈ rs, r.Fits start stop) (apart : rs.Pairwise fun r x => r.span.stop ≤ x.span.start)
    (cursor : Nat) (later : ∀ r ∈ rs, cursor ≤ r.span.start) :
    rewritten source (fun r => (r.body source).toList) cursor rs = source.drop cursor := by
  induction rs generalizing cursor with
  | nil => rfl
  | cons r rs ih =>
    obtain ⟨here, others⟩ := List.forall_mem_cons.mp fits
    obtain ⟨behind, apart⟩ := List.pairwise_cons.mp apart
    have low := later r (List.mem_cons_self ..)
    have := here.opened
    have := here.closed
    have rest := ih others apart r.span.bodyEnd fun x member => (by omega : _ ≤ r.span.stop).trans (behind x member)
    rw [rewritten, rest, Region.body, String.toList_ofList, List.append_assoc, slice_append_drop here.filled,
      slice_append_drop (by omega)]

end Rewritten

/-- A splicing of a text that offers the regions of a kind in none of the places, in the order of the text and with
their bodies as they were, gets new bodies for the places, and writes these and the text around them. -/
structure Splicing.Faithful (kind : RegionKind) (source : String) (nodes : List Node)
    (replace : Region → String → Option String) (places : List Region) (splicing : Splicing) : Prop where
  offered : splicing.offered =
    (outside places (regionsOfKind kind nodes)).map fun r => (r, r.body source.toList)
  ordered : splicing.offered.Pairwise fun p q => p.1.span.start < q.1.span.start
  taken : (splicing.offered.filter fun p => (replace p.1 p.2).isSome).map Prod.fst = places
  text : splicing.text = rewritten source.toList (bodyAfter source.toList replace) 0 places
  around : rewritten source.toList (fun r => (r.body source.toList).toList) 0 places = source.toList
  replaced : splicing.replaced = places.map (·.name)

/-- Splicing goes through for every text that is read, and touches the places only. -/
theorem replaceRegions_faithful (kind : RegionKind) {source : String} {nodes : List Node}
    (read : parse {} source = .ok nodes) (replace : Region → String → Option String) :
    ∃ splicing places, replaceRegions kind source replace = .ok splicing ∧
      splicing.Faithful kind source nodes replace places := by
  have nest := nest_regionsOfKind kind read
  have offered := @spliceFrom_offered source.toList replace _ _ _ nest 0
  have places := @spliceFrom_places source.toList replace _ _ _ nest 0
  obtain ⟨text, replaced⟩ := @spliceFrom_outermost source.toList replace _ _ _ nest 0
  rw [regionsFrom_zero] at offered places text replaced
  refine ⟨_, _, replaceRegions_run kind read replace, offered, ?_, places, text, ?_, replaced⟩
  · rw [offered, List.pairwise_map]
    exact (nest.ordered.sublist List.filter_sublist).imp_of_mem fun member _ leads =>
      leads.start_lt (nest.fits _ (List.mem_of_mem_filter member))
  · have fits (r : Region) (member : r ∈ outermost (isReplaced source.toList replace) (regionsOfKind kind nodes)) :=
      nest.fits r (mem_outermost.mp member).1
    exact rewritten_own fits (outermost_apart nest) 0 fun r _ => Nat.zero_le _

theorem Splicing.Faithful.offers {kind : RegionKind} {source : String} {nodes : List Node}
    {replace : Region → String → Option String} {places : List Region} {splicing : Splicing}
    (faithful : splicing.Faithful kind source nodes replace places) {p : Region × String}
    (member : p ∈ splicing.offered) : p.2 = p.1.body source.toList := by
  rw [faithful.offered, List.mem_map] at member
  obtain ⟨r, _, rfl⟩ := member
  rfl

/-- Nothing changes if every new body is the one that was there. -/
theorem Splicing.Faithful.unchanged {kind : RegionKind} {source : String} {nodes : List Node}
    {replace : Region → String → Option String} {places : List Region} {splicing : Splicing}
    (faithful : splicing.Faithful kind source nodes replace places)
    (same : ∀ p ∈ splicing.offered, ∀ new, replace p.1 p.2 = some new → new = p.2) :
    splicing.text = source.toList := by
  have own : ∀ r ∈ places, bodyAfter source.toList replace r = (r.body source.toList).toList := by
    intro r member
    rw [← faithful.taken, List.mem_map] at member
    obtain ⟨p, taken, rfl⟩ := member
    obtain ⟨there, made⟩ := List.mem_filter.mp taken
    obtain ⟨new, made⟩ := Option.isSome_iff_exists.mp made
    have body : p.2 = p.1.body source.toList := faithful.offers there
    rw [bodyAfter, ← body, made, Option.getD_some, same p there new made]
  exact faithful.text.trans ((rewritten_congr own 0).trans faithful.around)

end Stencil.Markup
