import Mathlib
import StressBatch.Link.Endpoint
import StressBatch.Proofs.Text.Decimal

/-!
# Addresses tell endpoints apart

The port of an address is what stands behind the last colon, since digits are no colons. What stands
in front of it is the host, in brackets exactly if it contains a colon; so a host that comes with
brackets of its own is never taken for one that was put into brackets.
-/

namespace StressBatch.Link.Endpoint

/-! ## The last colon -/

section Cuts

variable {α : Type} {a : α} {xs ys front back more : List α}

theorem eq_nil_of_cons_eq_append (hxs : a ∉ xs) (h : a :: xs = more ++ a :: ys) : more = [] := by
  cases more with
  | nil => rfl
  | cons x more =>
    have hrest : xs = more ++ a :: ys := (List.cons.inj h).2
    have hmem : a ∈ xs := by
      rw [hrest]
      exact List.mem_append_right more List.mem_cons_self
    exact absurd hmem hxs

/-- A list is cut in one way only at the last of its elements of a kind. -/
theorem append_cons_inj_of_not_mem (hxs : a ∉ xs) (hys : a ∉ ys) :
    front ++ a :: xs = back ++ a :: ys ↔ front = back ∧ xs = ys := by
  constructor
  · intro h
    rcases List.append_eq_append_iff.mp h with ⟨more, hback, hrest⟩ | ⟨more, hfront, hrest⟩
    · obtain rfl := eq_nil_of_cons_eq_append hxs hrest
      exact ⟨(hback.trans (List.append_nil front)).symm, (List.cons.inj hrest).2⟩
    · obtain rfl := eq_nil_of_cons_eq_append hys hrest
      exact ⟨hfront.trans (List.append_nil back), (List.cons.inj hrest).2.symm⟩
  · rintro ⟨rfl, rfl⟩
    rfl

end Cuts

/-! ## Hosts and ports -/

section Texts

variable {endpoint other : Endpoint}

theorem colon_not_mem_portText (endpoint : Endpoint) : ':' ∉ endpoint.portText.toList := by
  intro h
  exact absurd (Text.isDigit_of_mem_toString h) (by decide)

theorem portText_inj : endpoint.portText = other.portText ↔ endpoint.port = other.port := by
  rw [← UInt16.toNat_inj]
  exact Nat.repr_inj

theorem toList_hostText_of_colon (h : ':' ∈ endpoint.host.toList) :
    endpoint.hostText.toList = '[' :: (endpoint.host.toList ++ [']']) := by
  simp [hostText, h]

theorem hostText_of_no_colon (h : ':' ∉ endpoint.host.toList) :
    endpoint.hostText = endpoint.host := by
  simp [hostText, h]

theorem colon_mem_hostText_iff :
    ':' ∈ endpoint.hostText.toList ↔ ':' ∈ endpoint.host.toList := by
  by_cases h : ':' ∈ endpoint.host.toList
  · rw [toList_hostText_of_colon h]
    exact iff_of_true (List.mem_cons_of_mem _ (List.mem_append_left _ h)) h
  · rw [hostText_of_no_colon h]

theorem hostText_inj : endpoint.hostText = other.hostText ↔ endpoint.host = other.host := by
  constructor
  · intro h
    -- brackets around a host leave its colon there, so both hosts come in the same form
    have hcolon : ':' ∈ endpoint.host.toList ↔ ':' ∈ other.host.toList := by
      rw [← colon_mem_hostText_iff, h, colon_mem_hostText_iff]
    by_cases hplain : ':' ∈ endpoint.host.toList
    · rw [← String.toList_inj, toList_hostText_of_colon hplain,
        toList_hostText_of_colon (hcolon.mp hplain)] at h
      exact String.toList_inj.mp (List.append_cancel_right (List.cons.inj h).2)
    · rwa [hostText_of_no_colon hplain, hostText_of_no_colon (mt hcolon.mpr hplain)] at h
  · intro h
    unfold hostText
    rw [h]

end Texts

/-! ## Addresses -/

/-- Addresses are equal exactly if host and port are. -/
theorem address_eq_iff (endpoint other : Endpoint) : endpoint.address = other.address ↔
    endpoint.host = other.host ∧ endpoint.port = other.port := by
  have hsplit : ∀ endpoint : Endpoint, endpoint.address.toList =
      "tcp://".toList ++ (endpoint.hostText.toList ++ ':' :: endpoint.portText.toList) :=
    fun endpoint => by simp [address]
  rw [← String.toList_inj, hsplit, hsplit, List.append_cancel_left_eq,
    append_cons_inj_of_not_mem (colon_not_mem_portText endpoint) (colon_not_mem_portText other),
    String.toList_inj, String.toList_inj, hostText_inj, portText_inj]

/-- A host that is written with brackets is not the one that they would be put around. -/
example : (⟨"[::1]", 80⟩ : Endpoint).address = "tcp://[[::1]]:80" ∧
    (⟨"::1", 80⟩ : Endpoint).address = "tcp://[::1]:80" := by
  decide

end StressBatch.Link.Endpoint
