import Stencil.Proofs.Markup.Splice

/-!
How the regions of a text lie in each other, and which of them are spliced.

Of two regions of a text, the later one lies in the body of the earlier one or behind it (`nest_of_parse`). So the
splicer, which goes over them with a cursor, replaces exactly those that are to be replaced and lie in no other one
that is (`replaceRegions_outermost`). If it replaces by name, a name is replaced somewhere exactly if a region of that
name lies in the open (`replaceRegions_named`).
-/

namespace Stencil.Markup

/-- A region with its offsets in order, between two offsets. -/
structure Region.Fits (start stop : Nat) (r : Region) : Prop where
  begins : start ≤ r.span.start
  opened : r.span.start < r.span.bodyStart
  filled : r.span.bodyStart ≤ r.span.bodyEnd
  closed : r.span.bodyEnd < r.span.stop
  ends : r.span.stop ≤ stop

/-- A region that has another one in its body. -/
def Region.Encloses (outer inner : Region) : Prop :=
  outer.span.bodyStart ≤ inner.span.start ∧ inner.span.stop ≤ outer.span.bodyEnd

instance (outer inner : Region) : Decidable (outer.Encloses inner) :=
  inferInstanceAs (Decidable (_ ∧ _))

/-- Of two regions, the second lies in the body of the first or behind it. -/
def Region.Leads (first second : Region) : Prop :=
  first.Encloses second ∨ first.span.stop ≤ second.span.start

/-- Regions between two offsets, each in the body of an earlier one or behind it. -/
structure Nest (start stop : Nat) (rs : List Region) : Prop where
  fits : ∀ r ∈ rs, r.Fits start stop
  ordered : rs.Pairwise Region.Leads

section Nest

variable {start stop middle start' stop' : Nat} {first second rs : List Region} {r x y : Region}

theorem Region.Fits.mono (fits : r.Fits start stop) (low : start' ≤ start) (high : stop ≤ stop') :
    r.Fits start' stop' where
  begins := low.trans fits.begins
  opened := fits.opened
  filled := fits.filled
  closed := fits.closed
  ends := fits.ends.trans high

theorem Nest.nil : Nest start stop [] :=
  ⟨fun _ member => absurd member List.not_mem_nil, .nil⟩

theorem Nest.mono (nest : Nest start stop rs) (low : start' ≤ start) (high : stop ≤ stop') : Nest start' stop' rs :=
  ⟨fun r member => (nest.fits r member).mono low high, nest.ordered⟩

theorem Nest.sublist (nest : Nest start stop rs) (sub : first.Sublist rs) : Nest start stop first :=
  ⟨fun r member => nest.fits r (sub.subset member), nest.ordered.sublist sub⟩

theorem Nest.tail (nest : Nest start stop (r :: rs)) : Nest start stop rs :=
  nest.sublist (List.sublist_cons_self ..)

theorem Nest.append (nest : Nest start middle first) (more : Nest middle stop second) (up : start ≤ middle)
    (up' : middle ≤ stop) : Nest start stop (first ++ second) where
  fits := List.forall_mem_append.mpr
    ⟨fun r member => (nest.fits r member).mono le_rfl up', fun r member => (more.fits r member).mono up le_rfl⟩
  ordered := List.pairwise_append.mpr ⟨nest.ordered, more.ordered, fun r member x member' =>
    .inr ((nest.fits r member).ends.trans (more.fits x member').begins)⟩

theorem Nest.cons (fits : r.Fits start stop) (nest : Nest r.span.bodyStart r.span.bodyEnd rs) :
    Nest start stop (r :: rs) where
  fits := List.forall_mem_cons.mpr ⟨fits, fun x member => by
    have inside := nest.fits x member
    have := fits.begins
    have := fits.opened
    have := fits.closed
    have := fits.ends
    exact inside.mono (by omega) (by omega)⟩
  ordered := List.pairwise_cons.mpr ⟨fun x member =>
    .inl ⟨(nest.fits x member).begins, (nest.fits x member).ends⟩, nest.ordered⟩

theorem Region.Fits.not_encloses_self (fits : r.Fits start stop) : ¬ r.Encloses r :=
  fun encloses => absurd encloses.1 (not_le_of_gt fits.opened)

/-- No region has one in its body that comes earlier. -/
theorem Region.Leads.not_encloses (leads : r.Leads x) (fits : r.Fits start stop) (fits' : x.Fits start stop) :
    ¬ x.Encloses r := by
  rintro ⟨low, _⟩
  have := fits.opened
  have := fits.filled
  have := fits.closed
  have := fits'.opened
  rcases leads with ⟨inside, _⟩ | behind <;> omega

theorem Region.Encloses.trans (encloses : r.Encloses x) (fits : x.Fits start stop) (deeper : x.Encloses y) :
    r.Encloses y := by
  obtain ⟨low, high⟩ := encloses
  obtain ⟨low', high'⟩ := deeper
  have := fits.opened
  have := fits.closed
  exact ⟨by omega, by omega⟩

theorem Region.Leads.start_lt (leads : r.Leads x) (fits : r.Fits start stop) : r.span.start < x.span.start := by
  have := fits.opened
  have := fits.filled
  have := fits.closed
  rcases leads with ⟨inside, _⟩ | behind <;> omega

/-- A later region is in the body of an earlier one, or else does not begin before the end of that body. -/
theorem Region.Leads.not_encloses_iff (leads : r.Leads x) (fits : r.Fits start stop) (fits' : x.Fits start stop) :
    ¬ r.Encloses x ↔ r.span.bodyEnd ≤ x.span.start := by
  have := fits.closed
  have := fits'.opened
  have := fits'.filled
  have := fits'.closed
  constructor
  · intro apart
    rcases leads with inside | behind
    · exact absurd inside apart
    · omega
  · rintro behind ⟨_, high⟩
    omega

/-- Of several regions, the first lies in none. -/
theorem Nest.head_free (nest : Nest start stop (r :: rs)) : ∀ outer ∈ r :: rs, ¬ outer.Encloses r := by
  obtain ⟨fits, others⟩ := List.forall_mem_cons.mp nest.fits
  obtain ⟨leads, _⟩ := List.pairwise_cons.mp nest.ordered
  exact List.forall_mem_cons.mpr
    ⟨fits.not_encloses_self, fun x member => (leads x member).not_encloses fits (others x member)⟩

end Nest

mutual

theorem Concrete.nest_regions (part : Concrete) (start : Nat) :
    Nest start (start + extent part.pieces) (part.node start).regions := by
  cases part with
  | text s => exact .nil
  | leaf mark node stands =>
    rw [Concrete.node, stands.regions]
    exact .nil
  | block opening opener closer opens closes inside =>
    have inner := nest_regionsOf inside (start + opener.spelling.length)
    rw [Concrete.node, Opening.regions_node, extent_block]
    cases found : opening.region? (spanFrom start opener closer (piecesOf inside)) with
    | none => exact inner.mono (Nat.le_add_right ..) (by omega)
    | some r =>
      have span := Opening.region?_span found
      have length := opener.length_pos
      have length' := closer.length_pos
      refine Nest.cons ?_ (by rw [span]; exact inner)
      constructor <;> rw [span, spanFrom] <;> dsimp only <;> omega
  | choice condition opener turn closer opens turns closes accepted rejected =>
    have first := nest_regionsOf accepted (start + opener.spelling.length)
    have second := nest_regionsOf rejected
      (start + opener.spelling.length + extent (piecesOf accepted) + turn.spelling.length)
    rw [Concrete.node, Node.regions, extent_choice]
    exact (first.append (second.mono (Nat.le_add_right ..) le_rfl) (Nat.le_add_right ..) (by omega)).mono
      (Nat.le_add_right ..) (by omega)

theorem nest_regionsOf (parts : List Concrete) (start : Nat) :
    Nest start (start + extent (piecesOf parts)) (regionsOf (nodesFrom start parts)) := by
  cases parts with
  | nil => exact .nil
  | cons part rest =>
    have first := part.nest_regions start
    have second := nest_regionsOf rest (start + extent part.pieces)
    rw [nodesFrom, regionsOf, piecesOf, extent_append, ← Nat.add_assoc]
    exact first.append second (Nat.le_add_right ..) (Nat.le_add_right ..)

end

/-- The regions of a text are nested. -/
theorem nest_of_parse {source : String} {nodes : List Node} (read : parse {} source = .ok nodes) :
    Nest 0 source.length (regionsOf nodes) := by
  obtain ⟨parts, cut, rfl⟩ := parts_of_parse read
  have nest := nest_regionsOf parts 0
  rwa [Nat.zero_add, ← cut, extent, written_scan, String.length_toList] at nest

theorem nest_regionsOfKind (kind : RegionKind) {source : String} {nodes : List Node}
    (read : parse {} source = .ok nodes) : Nest 0 source.length (regionsOfKind kind nodes) :=
  (nest_of_parse read).sublist List.filter_sublist

/-- The chosen regions that lie in no other chosen one. -/
def outermost (chosen : Region → Bool) (rs : List Region) : List Region :=
  rs.filter fun r => chosen r && !rs.any fun outer => chosen outer && decide (outer.Encloses r)

section Outermost

variable {chosen : Region → Bool} {start stop : Nat} {r : Region} {rs : List Region}

theorem mem_outermost :
    r ∈ outermost chosen rs ↔ r ∈ rs ∧ chosen r = true ∧ ∀ outer ∈ rs, chosen outer = true → ¬ outer.Encloses r := by
  simp [outermost]

theorem outermost_cons_of_not (left : chosen r = false) : outermost chosen (r :: rs) = outermost chosen rs := by
  simp [outermost, left]

/-- Of regions that are nested, the first is outermost if it is chosen, and those in its body are not. -/
theorem outermost_cons (nest : Nest start stop (r :: rs)) (taken : chosen r = true) :
    outermost chosen (r :: rs) = r :: outermost chosen (rs.filter fun x => !decide (r.Encloses x)) := by
  have inner := (List.forall_mem_cons.mp nest.fits).2
  rw [outermost, List.filter_cons_of_pos, outermost, List.filter_filter]
  · refine congrArg (r :: ·) (List.filter_congr fun x member => ?_)
    rw [Bool.eq_iff_iff]
    simp only [List.any_cons, taken, Bool.true_and, Bool.not_or, Bool.and_eq_true, Bool.not_eq_true',
      decide_eq_false_iff_not, List.any_eq_false, not_and, List.mem_filter, and_imp]
    constructor
    · rintro ⟨kept, apart, rest⟩
      exact ⟨⟨kept, fun y member' _ => rest y member'⟩, apart⟩
    · rintro ⟨⟨kept, rest⟩, apart⟩
      refine ⟨kept, apart, fun y member' chosen' encloses => ?_⟩
      have unnested : ¬ r.Encloses y := fun deep => apart (deep.trans (inner y member') (of_decide_eq_true encloses))
      exact rest y member' unnested chosen' encloses
  · simp only [taken, Bool.true_and, Bool.not_eq_true', List.any_eq_false, Bool.and_eq_true, decide_eq_true_eq, not_and]
    exact fun outer member _ => nest.head_free outer member

end Outermost

/-- A text from an offset on in which some regions, listed in order, have new bodies. -/
def rewritten (source : List Char) (new : Region → List Char) (cursor : Nat) : List Region → List Char
  | [] => source.drop cursor
  | r :: rest => slice source cursor r.span.bodyStart ++ new r ++ rewritten source new r.span.bodyEnd rest

section Splice

variable {source : List Char} (replace : Region → String → Option String) {start stop : Nat}

/-- Whether a region of a text is to be replaced. -/
def isReplaced (source : List Char) (replace : Region → String → Option String) (r : Region) : Bool :=
  (replace r (r.body source)).isSome

/-- The body that a region of a text gets, its own if it is not to be replaced. -/
def bodyAfter (source : List Char) (replace : Region → String → Option String) (r : Region) : List Char :=
  ((replace r (r.body source)).getD (r.body source)).toList

/-- The regions that do not begin before an offset. -/
def regionsFrom (cursor : Nat) (rs : List Region) : List Region :=
  rs.filter fun r => decide (cursor ≤ r.span.start)

theorem regionsFrom_zero (rs : List Region) : regionsFrom 0 rs = rs :=
  List.filter_eq_self.mpr fun r _ => decide_eq_true (Nat.zero_le r.span.start)

theorem regionsFrom_passed {r : Region} {rs : List Region} {cursor : Nat} (passed : r.span.start < cursor) :
    regionsFrom cursor (r :: rs) = regionsFrom cursor rs :=
  List.filter_cons_of_neg (by simpa using passed)

theorem regionsFrom_reached {r : Region} {rs : List Region} {cursor : Nat} (reached : ¬ r.span.start < cursor) :
    regionsFrom cursor (r :: rs) = r :: regionsFrom cursor rs :=
  List.filter_cons_of_pos (by simpa using reached)

theorem Nest.reached {r : Region} {rs : List Region} (nest : Nest start stop (r :: rs)) (cursor : Nat) :
    Nest start stop (r :: regionsFrom cursor rs) :=
  nest.sublist (List.filter_sublist.cons_cons r)

/-- What begins behind the body of a region that the splicer has reached is what does not lie in it. -/
theorem regionsFrom_bodyEnd {r : Region} {rs : List Region} {cursor : Nat} (nest : Nest start stop (r :: rs))
    (reached : ¬ r.span.start < cursor) :
    (regionsFrom cursor rs).filter (fun x => !decide (r.Encloses x)) = regionsFrom r.span.bodyEnd rs := by
  have fits := nest.fits r (List.mem_cons_self ..)
  rw [regionsFrom, List.filter_filter]
  refine List.filter_congr fun x member => ?_
  have leads := (List.pairwise_cons.mp nest.ordered).1 x member
  have apart := leads.not_encloses_iff fits (nest.fits x (List.mem_cons_of_mem _ member))
  have := fits.opened
  have := fits.filled
  rw [Bool.eq_iff_iff]
  simp only [Bool.and_eq_true, Bool.not_eq_true', decide_eq_false_iff_not, decide_eq_true_eq, apart]
  omega

section Step

variable {replace} {r : Region} {rs : List Region} {cursor : Nat}

theorem outermost_left (reached : ¬ r.span.start < cursor) (made : replace r (r.body source) = none) :
    outermost (isReplaced source replace) (regionsFrom cursor (r :: rs)) =
      outermost (isReplaced source replace) (regionsFrom cursor rs) := by
  rw [regionsFrom_reached reached, outermost_cons_of_not]
  simp [isReplaced, made]

/-- Once the splicer has replaced a region, what is left to replace is behind its body. -/
theorem outermost_taken {new : String} (nest : Nest start stop (r :: rs)) (reached : ¬ r.span.start < cursor)
    (made : replace r (r.body source) = some new) :
    outermost (isReplaced source replace) (regionsFrom cursor (r :: rs)) =
      r :: outermost (isReplaced source replace) (regionsFrom r.span.bodyEnd rs) := by
  rw [regionsFrom_reached reached, outermost_cons (nest.reached cursor), regionsFrom_bodyEnd nest reached]
  simp [isReplaced, made]

end Step

/-- From its cursor on, the splicer replaces the outermost of the regions that are to be replaced. -/
theorem spliceFrom_outermost {rs : List Region} (nest : Nest start stop rs) (cursor : Nat) :
    (spliceFrom source replace cursor rs).text =
        rewritten source (bodyAfter source replace) cursor
          (outermost (isReplaced source replace) (regionsFrom cursor rs)) ∧
      (spliceFrom source replace cursor rs).replaced =
        (outermost (isReplaced source replace) (regionsFrom cursor rs)).map (·.name) := by
  fun_induction spliceFrom source replace cursor rs with
  | case1 => exact ⟨rfl, rfl⟩
  | case2 cursor r rs passed ih =>
    rw [regionsFrom_passed passed]
    exact ih nest.tail
  | case3 cursor r rs reached _ made _ ih =>
    rw [outermost_left reached made]
    exact ih nest.tail
  | case4 cursor r rs reached _ new made _ ih =>
    obtain ⟨text, replaced⟩ := ih nest.tail
    have body : bodyAfter source replace r = new.toList := by rw [bodyAfter, made, Option.getD_some]
    rw [outermost_taken nest reached made, rewritten, body, List.map_cons, ← text, ← replaced]
    exact ⟨rfl, rfl⟩

/-- Splicing goes through for every text that is read, and replaces the outermost of the regions that are to be
replaced. -/
theorem replaceRegions_outermost (kind : RegionKind) {source : String} {nodes : List Node}
    (read : parse {} source = .ok nodes) (replace : Region → String → Option String) :
    ∃ splicing, replaceRegions kind source replace = .ok splicing ∧
      splicing.text = rewritten source.toList (bodyAfter source.toList replace) 0
        (outermost (isReplaced source.toList replace) (regionsOfKind kind nodes)) ∧
      splicing.replaced =
        (outermost (isReplaced source.toList replace) (regionsOfKind kind nodes)).map (·.name) := by
  have spliced := @spliceFrom_outermost source.toList replace _ _ _ (nest_regionsOfKind kind read) 0
  rw [regionsFrom_zero] at spliced
  exact ⟨_, replaceRegions_run kind read replace, spliced⟩

end Splice

section Named

variable (kind : RegionKind) (names : List String) (nodes : List Node)

/-- A tree has a region of a kind with a name. -/
def Declares (name : String) : Prop :=
  ∃ r ∈ regionsOfKind kind nodes, r.name = name

/-- A region lies in one of a kind that has one of several names. -/
def Covered (r : Region) : Prop :=
  ∃ outer ∈ regionsOfKind kind nodes, outer.name ∈ names ∧ outer.Encloses r

/-- A tree has a region of a kind with a name in the open, where none with one of several names covers it. -/
def Exposed (name : String) : Prop :=
  ∃ r ∈ regionsOfKind kind nodes, r.name = name ∧ ¬ Covered kind names nodes r

/-- Whichever of several names a tree has, it has in the open. -/
def AllExposed : Prop :=
  ∀ name ∈ names, Declares kind nodes name → Exposed kind names nodes name

variable {kind names nodes}

instance (name : String) : Decidable (Declares kind nodes name) :=
  inferInstanceAs (Decidable (∃ r ∈ _, _))

theorem Exposed.declares {name : String} (exposed : Exposed kind names nodes name) : Declares kind nodes name := by
  obtain ⟨r, member, named, _⟩ := exposed
  exact ⟨r, member, named⟩

/-- What is not exposed is not there at all, exactly if everything that is there is exposed. -/
theorem not_declares_iff_allExposed {lost : List String}
    (leftover : ∀ name, name ∈ lost ↔ name ∈ names ∧ ¬ Exposed kind names nodes name) :
    (∀ name ∈ names, name ∈ lost ↔ ¬ Declares kind nodes name) ↔ AllExposed kind names nodes := by
  constructor
  · intro agree name member declared
    by_contra hidden
    exact (agree name member).mp ((leftover name).mpr ⟨member, hidden⟩) declared
  · intro exposed name member
    rw [leftover]
    exact ⟨fun ⟨_, hidden⟩ declared => hidden (exposed name member declared),
      fun missing => ⟨member, fun here => missing here.declares⟩⟩

/-- Splicing by name rewrites the regions with these names that none of them covers. So a name is replaced somewhere
exactly if it is exposed. -/
theorem replaceRegions_named (kind : RegionKind) {source : String} (read : parse {} source = .ok nodes)
    (replace : Region → String → Option String) (by_name : ∀ r body, (replace r body).isSome = true ↔ r.name ∈ names) :
    ∃ splicing places, replaceRegions kind source replace = .ok splicing ∧
      splicing.text = rewritten source.toList (bodyAfter source.toList replace) 0 places ∧
      (∀ r, r ∈ places ↔ r ∈ regionsOfKind kind nodes ∧ r.name ∈ names ∧ ¬ Covered kind names nodes r) ∧
      ∀ name ∈ names, name ∈ splicing.replaced ↔ Exposed kind names nodes name := by
  obtain ⟨splicing, spliced, text, replaced⟩ := replaceRegions_outermost kind read replace
  have places (r : Region) : r ∈ outermost (isReplaced source.toList replace) (regionsOfKind kind nodes) ↔
      r ∈ regionsOfKind kind nodes ∧ r.name ∈ names ∧ ¬ Covered kind names nodes r := by
    simp only [mem_outermost, isReplaced, by_name, Covered, not_exists, not_and]
  refine ⟨splicing, _, spliced, text, places, fun name member => ?_⟩
  rw [replaced, List.mem_map]
  constructor
  · rintro ⟨r, place, rfl⟩
    obtain ⟨inside, _, bare⟩ := (places r).mp place
    exact ⟨r, inside, rfl, bare⟩
  · rintro ⟨r, inside, rfl, bare⟩
    exact ⟨r, (places r).mpr ⟨inside, member, bare⟩, rfl⟩

end Named

end Stencil.Markup
