import MetricFeed.Proofs.Rehearsal.Traffic
import MetricFeed.Proofs.Provisioning.Convergence
import MetricFeed.Proofs.Provisioning.Fleet
import MetricFeed.Proofs.Provisioning.Protocol
import MetricFeed.Proofs.Reporting.Baselines
import MetricFeed.Proofs.Reporting.Failures
import MetricFeed.Proofs.Reporting.Published
import MetricFeed.Proofs.Reporting.Acceptance
import MetricFeed.Proofs.Reporting.Course
import MetricFeed.Proofs.Reporting.Counters
import MetricFeed.Proofs.Reporting.Timetable
import MetricFeed.Proofs.Reporting.Endings
import MetricFeed.Proofs.Reporting.PromptStop
import MetricFeed.Proofs.Reporting.Readability
import MetricFeed.Proofs.Agent.Closing
import MetricFeed.Rehearsal.Collector
import MetricFeed.Rehearsal.Hosting
import MetricFeed.Rehearsal.Watch
import MetricFeed.Proofs.Json.RoundTrip
import MetricFeed.Proofs.Metric.RoundTrip
import MetricFeed.Proofs.Agent.Overlap
import MetricFeed.Proofs.Topic.Minimality
import MetricFeed.Proofs.Metric.Encoding
import MetricFeed.Proofs.Settings.Interchange
import MetricFeed.Proofs.Agent.Configuration
import MetricFeed.Proofs.Reporting.Headway
import MetricFeed.Proofs.Reporting.Intake
import MetricFeed.Proofs.Reporting.Exposition
import MetricFeed.Proofs.Broker.Requests
import MetricFeed.Proofs.Reporting.Deadlines
