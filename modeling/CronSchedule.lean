import CronSchedule.Calendar.Gregorian
import CronSchedule.Calendar.Tabular
import CronSchedule.Description.Basic
import CronSchedule.Expression.Ranking
import CronSchedule.Expression.Stored
import CronSchedule.Occurrence.Progress
import CronSchedule.Session
import CronSchedule.Proofs.Time.Order
import CronSchedule.Proofs.Time.Successor
import CronSchedule.Proofs.Occurrence.EarliestTime
import CronSchedule.Proofs.Expression.WellFormed
import CronSchedule.Proofs.Calendar.Gregorian
import CronSchedule.Proofs.Expression.Matching
import CronSchedule.Proofs.Expression.MatchingDays
import CronSchedule.Proofs.Occurrence.Candidates
import CronSchedule.Proofs.Occurrence.Step
import CronSchedule.Proofs.Occurrence.Walk
import CronSchedule.Proofs.Occurrence.Admitted
import CronSchedule.Proofs.Occurrence.Next
import CronSchedule.Proofs.Occurrence.Range
import CronSchedule.Proofs.Field.Grammar
import CronSchedule.Proofs.Field.Grouping
import CronSchedule.Proofs.Field.DayGrammar
import CronSchedule.Proofs.Field.Accepted
import CronSchedule.Proofs.Field.Parsing
import CronSchedule.Proofs.Field.Operands
import CronSchedule.Proofs.Field.RoundTrip
import CronSchedule.Proofs.Expression.RoundTrip
import CronSchedule.Proofs.Calendar.Answers
import CronSchedule.Proofs.Occurrence.Horizon
import CronSchedule.Proofs.Occurrence.Scan
import CronSchedule.Proofs.Description.Accepted
import CronSchedule.Proofs.Description.Meaning
import CronSchedule.Proofs.Description.Enumeration
import CronSchedule.Proofs.Description.Wording
import CronSchedule.Proofs.Description.Sentence
import CronSchedule.Proofs.Calendar.Extension
import CronSchedule.Proofs.Expression.Readable
import CronSchedule.Proofs.Occurrence.Loop
import CronSchedule.Proofs.Occurrence.Safety
import CronSchedule.Proofs.Occurrence.Restart
import CronSchedule.Proofs.Calendar.Weekdays
import CronSchedule.Proofs.Calendar.Workdays
import CronSchedule.Proofs.Field.Replacement
import CronSchedule.Proofs.Field.Interchange
import CronSchedule.Proofs.Expression.Precedence
import CronSchedule.Proofs.Field.Progression
import CronSchedule.Proofs.Calendar.MonthLengths
import CronSchedule.Proofs.Description.Fallback
