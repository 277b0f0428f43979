import ChatRetrieval.Proofs.Json.Decode

/-!
Values as they come from a text. What a record is decoded from is nested no deeper than the text it
was read from, so a value without a fixed shape in it can be written and read again.
-/

namespace ChatRetrieval

namespace Json

theorem Fits.mono {depth depth' : Nat} {j : Json} (h : Fits depth j) (hle : depth ≤ depth') :
    Fits depth' j := by
  induction h generalizing depth' with
  | arr _ ih =>
    obtain _ | depth' := depth'
    · cases hle
    · exact .arr fun x hx => ih x hx (Nat.le_of_succ_le_succ hle)
  | obj _ ih =>
    obtain _ | depth' := depth'
    · cases hle
    · exact .obj fun m hm => ih m hm (Nat.le_of_succ_le_succ hle)
  | int hn => exact .int hn
  | _ => constructor

theorem Fits.of_mem_arr {depth : Nat} {items : List Json} {x : Json} (h : Fits depth (Json.arr items))
    (hx : x ∈ items) : Fits depth x := by
  cases h with
  | arr hitems => exact (hitems x hx).mono (Nat.le_succ _)

theorem Fits.of_mem_obj {depth : Nat} {members : List (String × Json)} {m : String × Json}
    (h : Fits depth (Json.obj members)) (hm : m ∈ members) : Fits depth m.2 := by
  cases h with
  | obj hmembers => exact (hmembers m hm).mono (Nat.le_succ _)

theorem Fits.arr_subset {depth : Nat} {items items' : List Json} (h : Fits depth (Json.arr items))
    (hsub : items' ⊆ items) : Fits depth (Json.arr items') := by
  cases h with
  | arr hitems => exact .arr fun x hx => hitems x (hsub hx)

theorem Fits.obj_subset {depth : Nat} {members members' : List (String × Json)}
    (h : Fits depth (Json.obj members)) (hsub : members' ⊆ members) : Fits depth (Json.obj members') := by
  cases h with
  | obj hmembers => exact .obj fun m hm => hmembers m (hsub hm)

end Json

namespace Decode

open Json (Fits)

/-- Whatever the decoder reads from a value of a text has the property. -/
def Yields {α : Type} (d : Decoder α) (P : α → Prop) : Prop :=
  ∀ {j a}, Fits Json.Reader.maxDepth j → d j = some a → P a

variable {α : Type} {d : Decoder α} {P : α → Prop}

theorem Yields.of_fromText (h : Yields d P) {text : String} {a : α} (ha : fromText d text = some a) :
    P a := by
  obtain ⟨j, hj, ha⟩ := Option.bind_eq_some_iff.1 ha
  exact h (Json.fits_of_parseRaw hj) ha

theorem yields_any : Yields any Json.Readable := by
  intro j a hj ha
  rw [← any_eq_some ha]
  exact hj.readable_canonical

theorem Yields.list (h : Yields d P) : Yields (Decode.list d) fun l => ∀ a ∈ l, P a := by
  intro j l hj hl a ha
  obtain ⟨xs, rfl, hxs⟩ := list_eq_some hl
  obtain ⟨x, hx, hxa⟩ := exists_of_mem_items hxs ha
  exact h (hj.of_mem_arr hx) hxa

def Record.Fits (r : Record) : Prop :=
  ∀ {k v}, r.find? k = some v → Json.Fits Json.Reader.maxDepth v

theorem Record.fits_of_record {names : List String} {j : Json} {r : Record}
    (hj : Json.Fits Json.Reader.maxDepth j) (h : record names j = some r) : r.Fits := by
  intro k v hv
  unfold record at h
  split at h
  · split at h <;> cases h
    exact hj.of_mem_obj (List.mem_filter.1 (mem_of_lookup_eq_some hv)).1
  · split at h <;> cases h
    exact hj.of_mem_arr (List.of_mem_zip (mem_of_lookup_eq_some hv)).2
  · cases h

theorem fits_of_tagged {tag name : String} {j body : Json} (hj : Fits Json.Reader.maxDepth j)
    (h : tagged tag j = some (name, body)) : Fits Json.Reader.maxDepth body := by
  replace h := buffered_eq_some h
  split at h
  · split at h
    · obtain ⟨s, hs, h⟩ := Option.bind_eq_some_iff.1 h
      cases h
      exact hj.obj_subset List.filter_sublist.subset
    · cases h
  · cases h
    exact hj.arr_subset (List.subset_cons_self _ _)
  · cases h

namespace Record

variable {r : Record} {name : String} (hr : r.Fits)
include hr

theorem withDefault_of_yields {fallback a : α} (h : Yields d P) (hfallback : P fallback)
    (ha : r.withDefault name fallback d = some a) : P a := by
  unfold withDefault at ha
  split at ha
  · exact h (hr ‹_›) ha
  · cases ha
    exact hfallback

theorem listOf_of_yields {l : List α} (h : Yields d P) (hl : r.listOf name d = some l) :
    ∀ a ∈ l, P a := by
  have hnil : ∀ a ∈ ([] : List α), P a := fun _ ha => absurd ha List.not_mem_nil
  exact withDefault_of_yields hr h.list hnil hl

theorem maybe_of_yields {a : Option α} (h : Yields d P) (ha : r.maybe name d = some a) :
    ∀ b ∈ a, P b := by
  have hoption : Yields (Decode.option d) fun a => ∀ b ∈ a, P b := by
    intro j a hj ha b hb
    obtain ⟨rfl, rfl⟩ | ⟨c, rfl, hc⟩ := option_eq_some ha
    · cases hb
    · cases hb
      exact h hj hc
  have hnone : ∀ b ∈ (none : Option α), P b := fun _ hb => nomatch hb
  exact withDefault_of_yields hr hoption hnone ha

end Record

end Decode

end ChatRetrieval
