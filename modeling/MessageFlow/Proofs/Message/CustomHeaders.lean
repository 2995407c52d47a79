import Mathlib.Data.List.Induction
import MessageFlow.Message
import MessageFlow.Proofs.Sample

/-!
# Custom headers as an ordered map

Custom headers are set by calls, one after the other. A name takes its place with the first call for
it (`ordered_setAll`) and has the value of the last one (`get_setAll`). A call replaces one value or
adds a name behind all others (`names_set`); so names stay distinct, and the first pair of a name,
which is the one that is looked up and replaced, is the only one (`mem_iff_get`).

A list of pairs may also be put together by hand, with a name in it twice. What `get_setAll` and
`set_comm_iff` say is true of such a list too.
-/

namespace MessageFlow

namespace CustomHeaders

/-- Custom headers after calls, each of which sets a name to a value. -/
def setAll (headers : CustomHeaders) (calls : List (String × String)) : CustomHeaders :=
  calls.foldl (fun headers call => headers.set call.1 call.2) headers

/-- Where the first call for a name stands among calls. -/
def firstCall (calls : List (String × String)) (name : String) : Nat :=
  (calls.map Prod.fst).idxOf name

/-- The last call for the name sets it to the value. -/
def LastCall (calls : List (String × String)) (name value : String) : Prop :=
  ∃ earlier later, calls = earlier ++ (name, value) :: later ∧ name ∉ later.map Prod.fst

theorem lastCall_iff_lookup {calls : List (String × String)} {name value : String} :
    LastCall calls name value ↔ calls.reverse.lookup name = some value := by
  rw [List.lookup_eq_some_iff]
  constructor
  · rintro ⟨earlier, later, rfl, hlast⟩
    refine ⟨later.reverse, earlier.reverse, by simp, ?_⟩
    rintro ⟨other, value'⟩ hmem
    rw [bne_iff_ne]
    rintro rfl
    exact hlast (List.mem_map_of_mem (List.mem_reverse.1 hmem))
  · rintro ⟨later, earlier, hcalls, hlast⟩
    refine ⟨earlier.reverse, later.reverse, ?_, ?_⟩
    · rw [← List.reverse_reverse calls, hcalls]
      simp
    · rw [List.map_reverse, List.mem_reverse, List.mem_map]
      rintro ⟨call, hmem, rfl⟩
      exact bne_iff_ne.1 (hlast call hmem) rfl

instance (calls : List (String × String)) (name value : String) :
    Decidable (LastCall calls name value) :=
  decidable_of_iff _ lastCall_iff_lookup.symm

/-- The headers are the ordered map that calls make. -/
structure Records (headers : CustomHeaders) (calls : List (String × String)) : Prop where
  distinct : (headers.map Prod.fst).Nodup
  /-- Names stand in the order of the first calls for them. -/
  ordered : (headers.map Prod.fst).Pairwise fun a b => firstCall calls a < firstCall calls b
  /-- Each name has the value of the last call for it. -/
  last : ∀ name value, (name, value) ∈ headers ↔ LastCall calls name value
  found : ∀ name value, headers.get name = some value ↔ LastCall calls name value
  /-- Nothing is found under a name that was never set. -/
  missing : ∀ name, headers.get name = none ↔ name ∉ calls.map Prod.fst

/-! ## One call -/

theorem get_set (headers : CustomHeaders) (name value other : String) :
    (headers.set name value).get other =
      if other = name then some value else headers.get other := by
  split
  · next h => rw [h, get_set_self]
  · next h => rw [get_set_of_ne headers h]

/-- A name without a value is not there. -/
theorem get_eq_none_iff (headers : CustomHeaders) (name : String) :
    headers.get name = none ↔ name ∉ headers.map Prod.fst := by
  unfold get
  rw [List.lookup_eq_none_iff, List.mem_map, not_exists]
  refine forall_congr' fun pair => ?_
  rw [bne_iff_ne, not_and]
  exact imp_congr_right fun _ => ne_comm

/-- Where no name comes twice, the pairs are what is looked up. -/
theorem mem_iff_get {headers : CustomHeaders} (hdistinct : (headers.map Prod.fst).Nodup)
    (name value : String) : (name, value) ∈ headers ↔ headers.get name = some value := by
  unfold get
  rw [List.lookup_eq_some_iff]
  constructor
  · intro hmem
    obtain ⟨before, after, rfl⟩ := List.append_of_mem hmem
    refine ⟨before, after, rfl, fun pair hpair => bne_iff_ne.2 ?_⟩
    rw [List.map_append, List.map_cons, List.nodup_append] at hdistinct
    exact (hdistinct.2.2 _ (List.mem_map_of_mem hpair) _ List.mem_cons_self).symm
  · rintro ⟨before, after, rfl, -⟩
    exact List.mem_append_right _ List.mem_cons_self

/-- The order of two calls for different names can be seen in the headers only if both names are
new. -/
theorem set_comm_iff (headers : CustomHeaders) {name other : String} (h : name ≠ other)
    (value value' : String) :
    (headers.set name value).set other value' = (headers.set other value').set name value ↔
      name ∈ headers.map Prod.fst ∨ other ∈ headers.map Prod.fst := by
  induction headers with
  | nil => simp [set, h, h.symm]
  | cons head rest ih =>
    obtain ⟨key, old⟩ := head
    by_cases hname : key = name
    · subst hname
      simp [set, h]
    · by_cases hother : key = other
      · subst hother
        simp [set, h, hname]
      · simp only [set, if_neg hname, if_neg hother, List.cons.injEq, true_and, ih, List.map_cons,
          List.mem_cons, Ne.symm hname, Ne.symm hother, false_or]

/-! ## All calls -/

theorem setAll_concat (headers : CustomHeaders) (calls : List (String × String))
    (name value : String) :
    headers.setAll (calls ++ [(name, value)]) = (headers.setAll calls).set name value := by
  unfold setAll
  rw [List.foldl_append, List.foldl_cons, List.foldl_nil]

/-- A name has the value of the last call for it, or else the one that it had before. -/
theorem get_setAll (headers : CustomHeaders) (calls : List (String × String)) (name : String) :
    (headers.setAll calls).get name = (calls.reverse.lookup name).or (headers.get name) := by
  induction calls using List.reverseRecOn with
  | nil => rfl
  | append_singleton calls call ih =>
    obtain ⟨name', value⟩ := call
    rw [setAll_concat, get_set, ih, List.reverse_concat, List.lookup_cons]
    by_cases hname : name = name'
    · rw [if_pos hname, beq_iff_eq.2 hname]
      rfl
    · rw [if_neg hname, beq_eq_false_iff_ne.2 hname]

theorem mem_names_setAll (calls : List (String × String)) (name : String) :
    name ∈ (setAll [] calls).map Prod.fst ↔ name ∈ calls.map Prod.fst := by
  induction calls using List.reverseRecOn with
  | nil => rfl
  | append_singleton calls call ih =>
    obtain ⟨name', value⟩ := call
    rw [setAll_concat, names_set, List.map_append, List.mem_append, ← ih]
    split
    · next hthere =>
      refine ⟨Or.inl, fun h => h.elim id fun hnew => ?_⟩
      rw [List.mem_singleton.1 hnew]
      exact hthere
    · rw [List.mem_append]
      rfl

/-- A later call does not change where the first one for a name stands. -/
theorem firstCall_append {calls : List (String × String)} {name : String}
    (h : name ∈ calls.map Prod.fst) (later : List (String × String)) :
    firstCall (calls ++ later) name = firstCall calls name := by
  unfold firstCall
  rw [List.map_append, List.idxOf_append, if_pos h]

/-- A name that is new to some calls stands behind all names in them. -/
theorem firstCall_lt_of_new {calls : List (String × String)} {name new : String}
    (h : name ∈ calls.map Prod.fst) (hnew : new ∉ calls.map Prod.fst)
    (later : List (String × String)) :
    firstCall (calls ++ later) name < firstCall (calls ++ later) new := by
  calc
    firstCall (calls ++ later) name = firstCall calls name := firstCall_append h later
    _ < (calls.map Prod.fst).length := List.idxOf_lt_length_of_mem h
    _ ≤ firstCall (calls ++ later) new := by
      rw [firstCall, List.map_append, List.idxOf_append, if_neg hnew]
      exact Nat.le_add_left _ _

/-- Calls on headers without custom ones leave the names in the order of their first calls. -/
theorem ordered_setAll (calls : List (String × String)) :
    ((setAll [] calls).map Prod.fst).Pairwise
      fun a b => firstCall calls a < firstCall calls b := by
  induction calls using List.reverseRecOn with
  | nil => exact .nil
  | append_singleton calls call ih =>
    obtain ⟨name, value⟩ := call
    have hcalled (a : String) : a ∈ (setAll [] calls).map Prod.fst ↔ a ∈ calls.map Prod.fst :=
      mem_names_setAll calls a
    have hkept : ((setAll [] calls).map Prod.fst).Pairwise fun a b =>
        firstCall (calls ++ [(name, value)]) a < firstCall (calls ++ [(name, value)]) b := by
      refine ih.imp_of_mem fun ha hb hlt => ?_
      rwa [firstCall_append ((hcalled _).1 ha), firstCall_append ((hcalled _).1 hb)]
    rw [setAll_concat, names_set]
    split
    · exact hkept
    · next hnew =>
      refine List.pairwise_append.2 ⟨hkept, List.pairwise_singleton _ _, fun a ha b hb => ?_⟩
      rw [List.mem_singleton.1 hb]
      exact firstCall_lt_of_new ((hcalled a).1 ha) (mt (hcalled name).2 hnew) _

theorem distinct_setAll (calls : List (String × String)) :
    ((setAll [] calls).map Prod.fst).Nodup := by
  refine (ordered_setAll calls).imp fun hlt he => ?_
  rw [he] at hlt
  exact Nat.lt_irrefl _ hlt

theorem get_setAll_eq_some_iff {calls : List (String × String)} {name value : String} :
    (setAll [] calls).get name = some value ↔ LastCall calls name value := by
  have hnone : get [] name = none := rfl
  rw [get_setAll, hnone, Option.or_none, lastCall_iff_lookup]

theorem records_setAll (calls : List (String × String)) : (setAll [] calls).Records calls where
  distinct := distinct_setAll calls
  ordered := ordered_setAll calls
  last name value := (mem_iff_get (distinct_setAll calls) name value).trans get_setAll_eq_some_iff
  found _ _ := get_setAll_eq_some_iff
  missing name := (get_eq_none_iff _ name).trans (not_congr (mem_names_setAll calls name))

end CustomHeaders

section

variable [PayloadTypes]

/-- A message with custom headers set, one after the other. -/
def Message.withHeaders (m : Message) (calls : List (String × String)) : Message :=
  calls.foldl (fun m call => m.withHeader call.1 call.2) m

/-- Nothing else of a message is touched. -/
theorem Message.withHeaders_eq (m : Message) (calls : List (String × String)) :
    m.withHeaders calls =
      { m with headers := { m.headers with custom := m.headers.custom.setAll calls } } := by
  induction calls generalizing m with
  | nil => rfl
  | cons call calls ih => exact ih (m.withHeader call.1 call.2)

/-- Custom headers are a map in order of insertion. After calls on new headers, names are distinct
and in the order of their first calls, each with the value of the last call for it; that value is
found under the name, and nothing under a name that was never set. Two calls for different names can
change places on any headers, unless both names are new there. -/
theorem custom_headers_ordered (timestamp : Nat) (calls : List (String × String)) :
    ((Headers.at timestamp).custom.setAll calls).Records calls ∧
    (∀ (headers : CustomHeaders) (name other value value' : String), name ≠ other →
      ((headers.set name value).set other value' = (headers.set other value').set name value ↔
        name ∈ headers.map Prod.fst ∨ other ∈ headers.map Prod.fst)) ∧
    ∀ id payload, (Message.mk id payload (.at timestamp)).withHeaders calls =
      ⟨id, payload,
        { Headers.at timestamp with custom := (Headers.at timestamp).custom.setAll calls }⟩ := by
  refine ⟨CustomHeaders.records_setAll calls, ?_, ?_⟩
  · intro headers name other value value' hne
    exact CustomHeaders.set_comm_iff headers hne value value'
  · intro id payload
    exact Message.withHeaders_eq ⟨id, payload, .at timestamp⟩ calls

end

open Sample

/-- A header that is set again keeps its place, and has its new value. -/
theorem custom_headers_ordered_replaced :
    let calls := [("region", "eu"), ("origin", "sensor-7"), ("region", "us")]
    let headers := (Headers.at 0).custom.setAll calls
    headers.map Prod.fst = ["region", "origin"] ∧
      CustomHeaders.LastCall calls "region" "us" ∧ headers.get "region" = some "us" ∧
      headers.get "missing" = none ∧ "region" ≠ "origin" ∧
      (headers.set "region" "eu").set "origin" "test" =
        (headers.set "origin" "test").set "region" "eu" := by
  intro calls headers
  obtain ⟨hrecords, hcomm, -⟩ := custom_headers_ordered 0 calls
  have hlast : CustomHeaders.LastCall calls "region" "us" := by decide
  have hne : "region" ≠ "origin" := by decide
  have hthere : "region" ∈ headers.map Prod.fst := by decide
  exact ⟨by decide, hlast, (hrecords.found _ _).2 hlast, (hrecords.missing _).2 (by decide), hne,
    (hcomm headers _ _ _ _ hne).2 (.inl hthere)⟩

end MessageFlow
