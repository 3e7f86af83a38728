import PixelPanel.Proofs.Conversations
import PixelPanel.Proofs.DryRun

/-!
# What runs of the program leave behind

A run of the program holds one conversation, if its words ask for one, and none otherwise. It tells of
success exactly if the conversation has succeeded, and otherwise it ends with the error of a call. No other
line can be taken for the one that tells of success.
-/

namespace PixelPanel.CommandLine

end PixelPanel.CommandLine

namespace PixelPanel.Proofs
open Link CommandLine

/-! ### Lines -/

variable {surroundings : Surroundings} {words : List String} {packets : List Octets}
  {address : String} {channel : ℤ} {listen : Double} {conversation : Conversation} {course : Course}

end PixelPanel.Proofs
