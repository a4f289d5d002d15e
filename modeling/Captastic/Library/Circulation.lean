import Mathlib.Algebra.Order.Group.Multiset
import Mathlib.Data.Multiset.UnionInter
import Mathlib.Data.Multiset.AddSub

/-!
# Tokens that pass from hand to hand

Tokens are issued, each at most once, pass from hand to hand, may be lost on the way, and are
retired.  `Circulation issued retired held` says that what is held and what was retired are
different tokens among those issued; so as many are issued and not retired as are held, or more
(`card_held_le`), and no token is retired twice.
-/

set_option autoImplicit false

namespace Captastic.Library

variable {T : Type}

/-- The tokens held and the ones retired are different ones among those issued. -/
structure Circulation (issued retired held : Multiset T) : Prop where
  once : issued.Nodup
  within : held + retired ≤ issued

namespace Circulation

variable {issued retired held : Multiset T}

/-- Nothing has been issued, so nothing is held or retired. -/
theorem initial : Circulation (0 : Multiset T) 0 0 where
  once := Multiset.nodup_zero
  within := le_refl _

/-- Tokens are lost, or only change hands. -/
theorem lose {held' : Multiset T} (circulation : Circulation issued retired held)
    (fewer : held' ≤ held) : Circulation issued retired held' where
  once := circulation.once
  within := (add_le_add_left fewer retired).trans circulation.within

/-- A new token. -/
theorem issue {token : T} (circulation : Circulation issued retired held)
    (fresh : token ∉ issued) : Circulation (token ::ₘ issued) retired (token ::ₘ held) where
  once := Multiset.nodup_cons.mpr ⟨fresh, circulation.once⟩
  within := by
    rw [Multiset.cons_add]
    exact Multiset.cons_le_cons token circulation.within

/-- A token is retired out of the hand that holds it. -/
theorem retire {token : T} (circulation : Circulation issued retired (token ::ₘ held)) :
    Circulation issued (token ::ₘ retired) held where
  once := circulation.once
  within := by
    rw [Multiset.add_cons, ← Multiset.cons_add]
    exact circulation.within

/-- What is held and what is retired were issued. -/
theorem card_held_le (circulation : Circulation issued retired held) :
    held.card + retired.card ≤ issued.card := by
  rw [← Multiset.card_add]
  exact Multiset.card_le_card circulation.within

/-- Whatever is retired was issued. -/
theorem retired_le (circulation : Circulation issued retired held) : retired ≤ issued :=
  (Multiset.le_add_left retired held).trans circulation.within

/-- No token is retired twice. -/
theorem retired_once (circulation : Circulation issued retired held) : retired.Nodup :=
  Multiset.nodup_of_le circulation.retired_le circulation.once

end Circulation

end Captastic.Library
