set_option autoImplicit false

namespace PoliteCrawl

abbrev Filed := List (Nat × List String)

namespace Filed

def keysAt (filed : Filed) (tier : Nat) : List String :=
  match filed with
  | [] => []
  | (other, keys) :: rest => if other = tier then keys else keysAt rest tier

def setKeys (tier : Nat) (keys : List String) (filed : Filed) : Filed :=
  filed.map fun (other, old) => if other = tier then (other, keys) else (other, old)

def append (tier : Nat) (key : String) : Filed → Filed
  | [] => [(tier, [key])]
  | (other, keys) :: rest =>
      if tier < other then (tier, [key]) :: (other, keys) :: rest
      else if tier = other then (other, keys ++ [key]) :: rest
      else (other, keys) :: append tier key rest

def occupied (filed : Filed) : Filed :=
  filed.filter (!·.2.isEmpty)

def keys (filed : Filed) : List String :=
  filed.flatMap (·.2)

end Filed

-- The keys of inactive queues, the lowest tier first, each tier in the order of filing. The
-- watermark is the lowest tier with a key in it.
structure Tiers where
  filed : Filed
  watermark : Nat
deriving DecidableEq, Repr

inductive Inspection where
  | activated
  | misfiled (tier : Nat)
  | stale
deriving DecidableEq, Repr

inductive ScanEnd where
  | activated (key : String)
  | exhausted
  | failed
deriving DecidableEq, Repr

namespace Tiers

def noTier : Nat := 4294967295

def empty : Tiers :=
  { filed := [], watermark := noTier }

def lowest (filed : Filed) : Nat :=
  ((filed.find? (!·.2.isEmpty)).map (·.1)).getD noTier

def file (tiers : Tiers) (key : String) (tier : Nat) : Tiers :=
  let filed := Filed.append tier key tiers.filed
  { filed, watermark := lowest filed }

def keys (tiers : Tiers) : List String :=
  Filed.keys tiers.filed

def size (tiers : Tiers) : Nat :=
  tiers.keys.length

def counts (tiers : Tiers) : List (Nat × Nat) :=
  (Filed.occupied tiers.filed).map fun (tier, keys) => (tier, keys.length)

section Scan

variable {σ : Type} (inspect : σ → String → Nat → σ × Option Inspection)

-- Takes the keys of a tier one by one and looks at each, until one is activated. A misfiled key goes
-- to the end of the tier it belongs to.
def scanTier (tier : Nat) : List String → σ → Filed → σ × Filed × ScanEnd
  | [], state, filed => (state, filed, .exhausted)
  | key :: rest, state, filed =>
      let taken := Filed.setKeys tier rest filed
      match inspect state key tier with
      | (state, none) => (state, taken, .failed)
      | (state, some .activated) => (state, taken, .activated key)
      | (state, some .stale) => scanTier tier rest state taken
      | (state, some (.misfiled current)) =>
          scanTier tier rest state (Filed.append current key taken)

def scan : List Nat → σ → Filed → σ × Filed × ScanEnd
  | [], state, filed => (state, filed, .exhausted)
  | tier :: tiers, state, filed =>
      match scanTier inspect tier (Filed.keysAt filed tier) state filed with
      | (state, filed, .exhausted) => scan tiers state filed
      | ended => ended

-- Scans the tiers that exist at the start for a key to activate. A scan that fails leaves the
-- watermark as it was.
def activateNext (state : σ) (tiers : Tiers) : σ × Tiers × ScanEnd :=
  match scan inspect (tiers.filed.map (·.1)) state tiers.filed with
  | (state, filed, .failed) => (state, { tiers with filed }, .failed)
  | (state, filed, ended) =>
      let occupied := Filed.occupied filed
      (state, { filed := occupied, watermark := lowest occupied }, ended)

end Scan

end Tiers

end PoliteCrawl
