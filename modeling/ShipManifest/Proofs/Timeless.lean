import ShipManifest.Proofs.Reloading
import ShipManifest.Service.Handler

/-!
# Handlers up to load times

The time of a load is the only thing that a handler takes from the clock and shows again. With the load times blanked
out, a handler does the same to a request whatever its tick is, and whatever the load time was (`Handler.handle_shown`).
-/

namespace ShipManifest

/-! ## Blanking out -/

/-- The manifest without the time of its load. -/
def Manifest.timeless (m : Manifest) : Manifest :=
  { m with loadedAt := ⟨0⟩ }

/-- The store without the time of the last load. -/
def Store.timeless (s : Store) : Store :=
  { s with current := s.current.timeless }

/-- The handler without the time of the last load. -/
def Handler.timeless (h : Handler) : Handler :=
  { h with store := h.store.timeless }

/-- The response without the load time that it tells. -/
def Response.timeless : Response → Response
  | .ok (.info known) => .ok (.info { known with loadedAt := ⟨0⟩ })
  | response => response

/-- What is to be seen of a handled request, up to load times. -/
def Handled.shown (handled : Handled) : Handler × Response :=
  (handled.handler.timeless, handled.response.timeless)

/-! ## Loads and reloads -/

namespace Store

variable (s : Store) (disk : Disk) (now now' : Instant) (path : String)

/-- The time of a load does not matter to what is swapped in. -/
theorem swapIn_timeless :
    (s.swapIn disk now path).store.timeless = (s.timeless.swapIn disk now' path).store.timeless ∧
      (s.swapIn disk now path).outcome.result = (s.timeless.swapIn disk now' path).outcome.result := by
  cases h : disk path with
  | error reason =>
    rw [swapIn, swapIn, Manifest.load_of_unreadable h, Manifest.load_of_unreadable h]
    exact ⟨rfl, rfl⟩
  | ok bytes =>
    cases ht : Text.decode? bytes with
    | none =>
      rw [swapIn, swapIn, Manifest.load_of_notText h ht, Manifest.load_of_notText h ht]
      exact ⟨rfl, rfl⟩
    | some text =>
      rw [swapIn, swapIn, Manifest.load_of_text h ht, Manifest.load_of_text h ht]
      exact ⟨rfl, rfl⟩

/-- A reload gives the same answer at any time, and the same store up to load times. -/
theorem reload_timeless :
    (s.reload disk now path).store.timeless = (s.timeless.reload disk now' path).store.timeless ∧
      (s.reload disk now path).outcome.result = (s.timeless.reload disk now' path).outcome.result := by
  have hswap := s.swapIn_timeless disk now now' path
  have hfrom : s.timeless.isFrom path = s.isFrom path := rfl
  have hsum : s.timeless.current.checksum = s.current.checksum := rfl
  unfold reload
  rw [hfrom, hsum]
  cases s.isFrom path with
  | false => exact hswap
  | true =>
    cases Manifest.fileChecksum disk path with
    | error e => exact ⟨rfl, rfl⟩
    | ok checksum =>
      by_cases hc : checksum = s.current.checksum
      · simp only [hc, ↓reduceIte]
        exact ⟨rfl, trivial⟩
      · simp only [hc, ↓reduceIte]
        exact hswap

end Store

/-! ## Requests -/

/-- **A request is handled the same at any time**, up to load times. -/
theorem Handler.handle_shown (h : Handler) (disk : Disk) (tick tick' : Tick) (request : Request) :
    (h.handle disk tick request).shown = (h.timeless.handle disk tick' request).shown := by
  cases request with
  | search query => rfl
  | all => rfl
  | name name => rfl
  | headers => rfl
  | info => rfl
  | reload =>
    obtain ⟨hstore, hresult⟩ := h.store.reload_timeless disk tick.time tick'.time h.manifestPath
    simp only [handle, Handled.shown, timeless, hstore, hresult]

end ShipManifest
