namespace TextPattern

/-- The two ways to match a pattern. -/
inductive Mode
  | consume
  | neglect
deriving DecidableEq

def Mode.flip : Mode → Mode
  | consume => neglect
  | neglect => consume

end TextPattern
