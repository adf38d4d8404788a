import PoliteCrawl.Frontier.Placement

set_option autoImplicit false

namespace PoliteCrawl.Frontier

def inspect (frontier : Frontier) (key : String) (tier : Nat) : Frontier × Option Inspection :=
  match frontier.queue? key with
  | none => (frontier, some .stale)
  | some queue =>
      if queue.state = .inactive then
        match frontier.refresh queue with
        | (frontier, none) => (frontier, none)
        | (frontier, some queue) =>
            if queue.precedence = tier then
              match queue.transition .ready with
              | .ok queue => (frontier.store queue, some .activated)
              | .error _ => (frontier, some .stale)
            else (frontier, some (.misfiled queue.precedence))
      else (frontier, some .stale)

def activateInactive (frontier : Frontier) : Frontier × Option Bool :=
  match Tiers.activateNext inspect frontier frontier.tiers with
  | (frontier, tiers, .activated key) => ({ frontier with tiers }.publish key, some true)
  | (frontier, tiers, .exhausted) => ({ frontier with tiers }, some false)
  | (frontier, tiers, .failed) => ({ frontier with tiers }, none)

def unretireQueue (frontier : Frontier) (key : String) : Frontier × Option Bool :=
  match frontier.queue? key with
  | none => (frontier, some false)
  | some queue =>
      if queue.state = .retired then
        let queue := queue.setTotalBudget frontier.budgets.total
        let frontier := frontier.store queue
        if queue.isOverTotal then
          ({ frontier with retired := Retired.insert key frontier.retired }, some false)
        else
          match frontier.reenqueue queue with
          | (frontier, none) => (frontier, none)
          | (frontier, some placement) => (frontier.place key placement, some true)
      else (frontier, some false)

def unretireAll (frontier : Frontier) (count : Nat) : List String → Frontier × Option Nat
  | [] => (frontier, some count)
  | key :: rest =>
      match frontier.unretireQueue key with
      | (frontier, none) => (frontier, none)
      | (frontier, some true) => frontier.unretireAll (count + 1) rest
      | (frontier, some false) => frontier.unretireAll count rest

def unretireQueues (frontier : Frontier) : Frontier × Option Nat :=
  { frontier with retired := [] }.unretireAll 0 frontier.retired

end PoliteCrawl.Frontier
