import MessageFlow.Proofs.Json.SkippedScalars
import MessageFlow.Proofs.Json.Verbatim

/-!
# Skipping what can be read

Whatever is read as a document is skipped, by readers that keep nothing of it, to the same cursor
(`taken_skipOne`). An array is read from its bracket on and skipped from its first item on, each
with a bound of its own; the bound of the skipping side is enough as long as it is no less than the
bytes that remain, and every comma takes one of them.
-/

namespace MessageFlow.Json.Reader

section Values

variable {α : Type} {item : Reader α} {item' : Reader Unit} {n : Nat}

theorem forward_skipItems (hitem : item'.Forward) (bound : Nat) :
    (skipValue.skipItems item' bound).Forward := by
  induction bound with
  | zero => exact forward_failHere _
  | succ bound ih =>
    refine forward_bind hitem fun _ => forward_bind forward_blanks fun b => ?_
    split
    · exact forward_failAhead _
    · exact forward_skip
    · exact forward_bind forward_skip fun _ => ih
    · exact forward_failAhead _

theorem forward_skipMembers (hitem : item'.Forward) (bound : Nat) :
    (skipValue.skipMembers item' bound).Forward := by
  induction bound with
  | zero => exact forward_failHere _
  | succ bound ih =>
    have rest {first : Reader Unit} {f : Option UInt8 → Reader Unit} (h : first.Forward)
        (hf : ∀ b, (f b).Forward) : (first >>= fun _ => skipString >>= fun _ => colon >>= fun _ =>
          item' >>= fun _ => blanks >>= f).Forward :=
      forward_bind h fun _ => forward_bind forward_skipString fun _ =>
        forward_bind forward_colon fun _ => forward_bind hitem fun _ =>
          forward_bind forward_blanks hf
    refine forward_bind forward_blanks fun b => ?_
    split <;> refine rest ?_ fun b => ?_
    case h_1.refine_1 | h_3.refine_1 => exact forward_failAhead _
    case h_2.refine_1 => exact forward_skip
    -- However the key began, the member ends in one way.
    all_goals
      split
      · exact forward_failAhead _
      · exact forward_skip
      · exact forward_bind forward_skip fun _ => ih
      · exact forward_failAhead _

theorem forward_skipValue (bound : Nat) : (skipValue bound).Forward := by
  induction bound with
  | zero => exact forward_failHere _
  | succ bound ih =>
    refine forward_bind forward_blanks fun b => ?_
    split
    · exact forward_failAhead _
    · exact forward_bind forward_skip fun _ => forward_word _
    · exact forward_bind forward_skip fun _ => forward_word _
    · exact forward_bind forward_skip fun _ => forward_word _
    · exact forward_bind forward_skip fun _ => forward_skipNumber
    · exact forward_bind forward_skip fun _ => forward_skipString
    · refine forward_bind forward_skip fun _ => forward_bind forward_blanks fun b => ?_
      split
      · exact forward_failAhead _
      · exact forward_skip
      · exact forward_bind forward_remaining fun _ => forward_skipItems ih _
    · refine forward_bind forward_skip fun _ => forward_bind forward_blanks fun b => ?_
      split
      · exact forward_failAhead _
      · exact forward_skip
      · exact forward_bind forward_remaining fun _ => forward_skipMembers ih _
    · split
      · exact forward_skipNumber
      · exact forward_failAhead _

/-- The rest of an array is skipped like its first items, as far as each item is. -/
theorem taken_skipItems
    (hitem : ∀ c a d, c.rest.length < n → item.taken c = some (a, d) →
      item'.taken c = some ((), d))
    (hforward : item'.Forward) (hsettled : ∀ c, item.taken c.settled = item.taken c)
    {bound room : Nat} {c d e : Cursor} {a : α} {as : List α} (hn : c.rest.length < n)
    (hne : c.rest ≠ []) (hroom : c.rest.length ≤ room) (ha : item.taken c = some (a, e))
    (h : (items item bound false).taken e = some (as, d)) :
    (skipValue.skipItems item' room).taken c = some ((), d) := by
  induction bound generalizing room c e a as with
  | zero => cases h
  | succ bound ih =>
    have hpos := List.length_pos_iff.2 hne
    obtain ⟨room, rfl⟩ : ∃ r, room = r + 1 := ⟨room - 1, by omega⟩
    have hskip := hitem c a e hn ha
    have hle := (hforward c () e hskip).length_le
    rw [skipValue.skipItems, taken_bind, hskip, Option.bind_some, taken_blanks_bind]
    cases items_cases h with
    | ended hend =>
      obtain ⟨rfl, head⟩ := nextItem_end hend
      rw [head]
      rfl
    | more hbound hnext ha' hrest =>
      cases hbound
      obtain ⟨head, rfl, b, hb, _⟩ := nextItem_later hnext
      have hle' := e.rest_settled_suffix.length_le
      have hlength := Cursor.length_advance head
      have hsome : e.settled.advance.rest ≠ [] := by
        intro hnil
        have hle := e.settled.advance.rest_settled_suffix
        rw [hnil, List.suffix_nil] at hle
        rw [hle] at hb
        cases hb
      rw [head]
      show (skip >>= fun _ => skipValue.skipItems item' room).taken e.settled = _
      rw [taken_skip_bind]
      rw [hsettled] at ha'
      exact ih (by omega) hsome (by omega) ha' hrest

/-- The rest of an object is skipped like its first members, as far as each value is. -/
theorem taken_skipMembers
    (hitem : ∀ c a d, c.rest.length < n → item.taken c = some (a, d) →
      item'.taken c = some ((), d))
    (hforward : item'.Forward) {bound room : Nat} {c d e₁ e₂ e₃ : Cursor} {name : String} {a : α}
    {as : List (String × α)} (hn : c.rest.length < n) (hroom : c.rest.length ≤ room)
    (hhead : c.settled.rest.head? = some 0x22)
    (hname : string.taken c.settled.advance = some (name, e₁))
    (hcolon : colon.taken e₁ = some ((), e₂)) (ha : item.taken e₂ = some (a, e₃))
    (h : (members item bound false).taken e₃ = some (as, d)) :
    (skipValue.skipMembers item' room).taken c = some ((), d) := by
  induction bound generalizing room c e₁ e₂ e₃ name a as with
  | zero => cases h
  | succ bound ih =>
    have hskip := taken_string hname
    have hle := c.rest_settled_suffix.length_le
    have hlength := Cursor.length_advance hhead
    have hle₁ := (forward_skipString _ _ _ hskip).length_le
    have hle₂ := (forward_colon _ _ _ hcolon).length_le
    have hvalue := hitem e₂ a e₃ (by omega) ha
    have hle₃ := (hforward _ _ _ hvalue).length_le
    obtain ⟨room, rfl⟩ : ∃ r, room = r + 1 := ⟨room - 1, by omega⟩
    rw [skipValue.skipMembers, taken_blanks_bind, hhead]
    show (skip >>= fun _ => _).taken c.settled = _
    rw [taken_skip_bind, taken_bind, hskip, Option.bind_some, taken_bind, hcolon,
      Option.bind_some, taken_bind, hvalue, Option.bind_some, taken_blanks_bind]
    cases members_cases h with
    | ended hend =>
      obtain ⟨rfl, head⟩ := nextMember_end hend
      rw [head]
      rfl
    | more hbound hnext hname' hcolon' ha' hrest =>
      cases hbound
      obtain ⟨head, head', rfl⟩ := nextMember_later hnext
      have hle₄ := e₃.rest_settled_suffix.length_le
      have hlength' := Cursor.length_advance head
      rw [head]
      show (skip >>= fun _ => skipValue.skipMembers item' room).taken e₃.settled = _
      rw [taken_skip_bind]
      exact ih (by omega) (by omega) head' hname' hcolon' ha' hrest

end Values

theorem taken_skipValue_scalar {room : Nat} {c d : Cursor} {w : Json}
    (h : ScalarAt c.settled w d) : (skipValue (room + 1)).taken c = some ((), d) := by
  rw [skipValue, taken_blanks_bind]
  cases h with
  | null head rest => rw [head]; exact rest
  | yes head rest => rw [head]; exact rest
  | no head rest => rw [head]; exact rest
  | signed head rest => rw [head]; exact taken_number rest
  | string head rest => rw [head]; exact taken_string rest
  | unsigned head digit rest =>
    rw [head]
    split
    case h_9 heq =>
      rw [← Option.some_inj.1 heq, if_pos digit]
      exact taken_number rest
    case h_1 heq => cases heq
    -- No digit begins a word, a string or a compound value.
    all_goals
      next heq =>
      cases heq
      exact absurd digit (by decide)

/-- Whatever is read as a document is skipped, if there is room for its bytes. -/
theorem taken_skipValue {depth room : Nat} {c d : Cursor} {w : Json} (hroom : c.rest.length < room)
    (h : (verbatim depth).taken c = some (w, d)) : (skipValue room).taken c = some ((), d) := by
  induction depth using Nat.strongRecOn generalizing room c w d with
  | ind depth ih =>
    obtain ⟨room, rfl⟩ : ∃ r, room = r + 1 := ⟨room - 1, by omega⟩
    have hle := c.rest_settled_suffix.length_le
    have hle' := c.settled.advance.rest_settled_suffix.length_le
    cases verbatim_cases h with
    | scalar _ here => exact taken_skipValue_scalar here
    | array hdepth _ head hitems =>
      have hlength := Cursor.length_advance head
      have hroom' : c.settled.advance.settled.rest.length < room := by omega
      rw [skipValue, taken_blanks_bind, head]
      show (skip >>= fun _ => _).taken c.settled = _
      rw [taken_skip_bind, taken_blanks_bind]
      cases items_cases hitems with
      | ended hend =>
        obtain ⟨rfl, head'⟩ := nextItem_end hend
        rw [head']
        rfl
      | more _ hnext hw hrest =>
        obtain ⟨rfl, b, hb, hne⟩ := nextItem_first hnext
        have hsome : c.settled.advance.settled.rest ≠ [] := by
          intro hnil
          rw [hnil] at hb
          cases hb
        rw [hb]
        split
        · next hnone => cases hnone
        · next heq => exact absurd (Option.some_inj.1 heq) hne
        · rw [taken_remaining_bind]
          exact taken_skipItems (fun c w d hc hw => ih _ (by omega) hc hw)
            (forward_skipValue room) (verbatim_settled _) hroom' hsome (Nat.le_refl _) hw hrest
    | object hdepth _ head hmembers =>
      have hlength := Cursor.length_advance head
      have hroom' : c.settled.advance.settled.rest.length < room := by omega
      rw [skipValue, taken_blanks_bind, head]
      show (skip >>= fun _ => _).taken c.settled = _
      rw [taken_skip_bind, taken_blanks_bind]
      cases members_cases hmembers with
      | ended hend =>
        obtain ⟨rfl, head'⟩ := nextMember_end hend
        rw [head']
        rfl
      | more _ hnext hname hcolon hw hrest =>
        obtain ⟨head', rfl⟩ := nextMember_first hnext
        rw [head']
        show (remaining >>= fun bound =>
          skipValue.skipMembers (skipValue room) bound).taken c.settled.advance.settled = _
        rw [taken_remaining_bind]
        rw [← Cursor.settled_settled] at head' hname
        exact taken_skipMembers (fun c w d hc hw => ih _ (by omega) hc hw)
          (forward_skipValue room) hroom' (Nat.le_refl _) head' hname hcolon hw hrest

theorem taken_skipOne {depth : Nat} {c d : Cursor} {w : Json}
    (h : (verbatim depth).taken c = some (w, d)) : skipOne.taken c = some ((), d) := by
  rw [skipOne, taken_remaining_bind]
  exact taken_skipValue (Nat.lt_succ_self _) h

end MessageFlow.Json.Reader
